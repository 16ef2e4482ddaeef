import Courier.Kafka.Client
import Courier.Proofs.Subscriber.Lineage

/-!
# Positions of a consumer group

The records of a topic stand in partitions, each at its offset, and a group has a committed position
in every partition. A session reads on from there, and committing a position settles everything
below it at once. A `Group` follows what passes between the calls that listen and such a topic.
Whatever the handler answers, whichever commits fail and whenever sessions end, no record is passed
over: what the committed positions have left behind was decided.
-/

namespace Courier.Kafka

open Subscriber

/-! ## §1 Groups -/

/-- The records of a topic, by partition and offset. -/
abbrev Topic := Int → Int → Option Delivery

/-- A position in every partition. -/
abbrev Positions := Int → Int

/-- The positions after that in one partition has moved. -/
def Positions.move (f : Positions) (partition offset : Int) : Positions :=
  fun p => if p = partition then offset else f p

@[simp] theorem Positions.move_self (f : Positions) (partition offset : Int) :
    f.move partition offset partition = offset :=
  if_pos rfl

theorem Positions.move_of_ne (f : Positions) {p partition : Int} (offset : Int)
    (h : p ≠ partition) : f.move partition offset p = f p :=
  if_neg h

/-- The record that a group has in its hands. -/
inductive Hand where
  | empty
  /-- It was tried so many times, and the last try may have failed. -/
  | holding (handle : Handle) (tries : Nat) (failure : Option HandlerError)
  | settling (handle : Handle) (settlement : Settlement)

/-- What is committed, from where the session reads on, and which records were decided. -/
structure Group where
  committed : Positions
  position : Positions
  hand : Hand
  decided : List Handle

/-- Whether the options give a record up whose last try, of so many, has failed: it must not be
tried again, its tries are exhausted, or the policy says to stop. -/
def givesUp (o : Options) (tries : Nat) (e : HandlerError) : Bool :=
  !e.retryable || o.limit.isExhausted tries || (o.backoff (tries - 1)).stop

namespace Group

/-- A group that has committed the given positions. -/
def start (initial : Positions) : Group := ⟨initial, initial, .empty, []⟩

/-- The handler has answered; a record that was handled is decided. -/
def answered (g : Group) (result : Except HandlerError Unit) : Group :=
  match g.hand with
  | .holding h tries _ =>
    match result with
    | .ok () =>
      { g with hand := .holding h (oneMoreAttempt tries) none, decided := h :: g.decided }
    | .error e => { g with hand := .holding h (oneMoreAttempt tries) (some e) }
  | _ => g

/-- A record is settled; if it is rejected because it was given up, it is decided. -/
def offered (g : Group) (o : Options) (x : Settlement) (h : Handle) : Group :=
  match g.hand with
  | .holding h' tries failure =>
    { g with
      hand := .settling h x
      decided :=
        if x = .reject ∧ h' = h ∧ failure.any (givesUp o tries) = true then h :: g.decided
        else g.decided }
  | _ => g

end Group

/-- Whether an entry of a history is none of the group's business. -/
def isForeign : Entry Handle → Bool
  | .came (.opened (.ok _)) | .came (.read (.ok (some _))) | .came (.handled _)
  | .came (.settled _) | .asked (.settle _ _ _) => false
  | _ => true

/-- What an entry of a history does to a group. A session reads on from what is committed, and in
each partition it reads one record after the other. An acknowledgement or a rejection moves the
committed position past the record or fails to, and an answer need not tell which; nothing else
moves it. -/
inductive Group.Next (s : Setup) (topic : Topic) : Group → Entry Handle → Group → Prop where
  | opened (g : Group) :
      Next s topic g (.came (.opened (.ok ()))) { g with position := g.committed }
  | delivered (g : Group) (partition offset : Int) (d : Delivery) :
      topic partition offset = some d → g.position partition ≤ offset →
      (∀ earlier, g.position partition ≤ earlier → earlier < offset →
        topic partition earlier = none) →
      Next s topic g (.came (.read (.ok (some (d, ⟨partition, offset⟩)))))
        { g with
          position := g.position.move partition (offset + 1)
          hand := .holding ⟨partition, offset⟩ 0 none }
  | answered (g : Group) (result : Except HandlerError Unit) :
      Next s topic g (.came (.handled result)) (g.answered result)
  | offered (g : Group) (x : Settlement) (h : Handle) (d : Delivery) :
      Next s topic g (.asked (.settle x h d)) (g.offered s.options x h)
  | moved (g : Group) (h : Handle) (x : Settlement) (result : Except BrokerError Unit)
      (partition offset : Int) : g.hand = .settling h x → x = .ack ∨ x = .reject →
      nextPosition s.destination h = .at s.destination partition offset →
      Next s topic g (.came (.settled result))
        { g with
          committed := g.committed.move partition offset
          hand := .empty }
  | kept (g : Group) (result : Except BrokerError Unit) :
      Next s topic g (.came (.settled result)) { g with hand := .empty }
  | foreign (g : Group) (entry : Entry Handle) : isForeign entry = true →
      Next s topic g entry g

/-- What a history does to a group. -/
inductive Group.Follows (s : Setup) (topic : Topic) :
    Group → List (Entry Handle) → Group → Prop where
  | nil (g : Group) : Follows s topic g [] g
  | cons {g g' g'' : Group} {entry : Entry Handle} {rest : List (Entry Handle)} :
      Next s topic g entry g' → Follows s topic g' rest g'' → Follows s topic g (entry :: rest) g''

variable {s : Setup} {topic : Topic} {g g' : Group}

theorem Group.Follows.split {a b : List (Entry Handle)} (h : Follows s topic g (a ++ b) g') :
    ∃ g'', Follows s topic g a g'' ∧ Follows s topic g'' b g' := by
  induction a generalizing g with
  | nil => exact ⟨g, .nil g, h⟩
  | cons entry rest ih =>
    cases h with
    | cons hn hrest =>
      obtain ⟨g'', ha, hb⟩ := ih hrest
      exact ⟨g'', .cons hn ha, hb⟩

/-! ## §2 What is decided below a position -/

/-- Every record from the initial position of its partition up to a bound satisfies something. -/
def Below (topic : Topic) (initial bound : Positions) (P : Handle → Prop) : Prop :=
  ∀ partition offset, (topic partition offset).isSome = true → initial partition ≤ offset →
    offset < bound partition → P ⟨partition, offset⟩

theorem Below.mono {initial bound : Positions} {P Q : Handle → Prop}
    (h : Below topic initial bound P) (hPQ : ∀ handle, P handle → Q handle) :
    Below topic initial bound Q :=
  fun partition offset hsome hle hlt => hPQ _ (h partition offset hsome hle hlt)

/-- The next record that is read is the only one below the position after it that was not below the
position before it. -/
theorem Below.read {initial bound : Positions} {P : Handle → Prop} {partition offset : Int}
    (h : Below topic initial bound P)
    (hnone : ∀ earlier, bound partition ≤ earlier → earlier < offset →
      topic partition earlier = none) :
    Below topic initial (bound.move partition (offset + 1))
      fun handle => P handle ∨ handle = ⟨partition, offset⟩ := by
  intro partition' offset' hsome hle hlt
  by_cases hp : partition' = partition
  · subst hp
    rw [Positions.move_self] at hlt
    rcases Int.lt_or_le offset' (bound partition') with hbound | hbound
    · exact .inl (h partition' offset' hsome hle hbound)
    · rcases Int.lt_or_eq_of_le (Int.le_of_lt_add_one hlt) with hearlier | rfl
      · rw [hnone offset' hbound hearlier] at hsome
        cases hsome
      · exact .inr rfl
  · rw [Positions.move_of_ne _ _ hp] at hlt
    exact .inl (h partition' offset' hsome hle hlt)

/-- A position that is committed may move up to where everything below holds. -/
theorem Below.commit {initial bound read : Positions} {P : Handle → Prop} {partition : Int}
    (h : Below topic initial bound P) (hread : Below topic initial read P) :
    Below topic initial (bound.move partition (read partition)) P := by
  intro partition' offset hsome hle hlt
  by_cases hp : partition' = partition
  · subst hp
    rw [Positions.move_self] at hlt
    exact hread partition' offset hsome hle hlt
  · rw [Positions.move_of_ne _ _ hp] at hlt
    exact h partition' offset hsome hle hlt

theorem nextPosition_eq_at {name name' : String} {h : Handle} {partition offset : Int}
    (hnext : nextPosition name h = .at name' partition offset) :
    partition = h.partition ∧ offset = h.offset + 1 := by
  unfold nextPosition at hnext
  split at hnext
  · cases hnext
  · split at hnext
    · cases hnext
    · cases hnext
      exact ⟨rfl, rfl⟩

/-! ## §3 Groups and stages -/

theorem givesUp_iff {o : Options} {tries : Nat} {e : HandlerError} : givesUp o tries e = true ↔
    e.retryable = false ∨ o.limit.isExhausted tries = true ∨
      (o.backoff (tries - 1)).stop = true := by
  simp [givesUp, or_assoc]

namespace Group

/-- The session has read up to a record, which alone need not be decided yet. -/
structure Holds (topic : Topic) (initial : Positions) (g : Group) (job : Job Handle) : Prop where
  hand : ∃ failure, g.hand = .holding job.handle job.made failure
  position : g.position job.handle.partition = job.handle.offset + 1
  below : Below topic initial g.position fun h => h ∈ g.decided ∨ h = job.handle

/-- A record is settled; unless it is handed back, everything that was read is decided. -/
structure Settles (topic : Topic) (initial : Positions) (g : Group) (job : Job Handle)
    (x : Settlement) : Prop where
  hand : g.hand = .settling job.handle x
  position : x ≠ .requeue → g.position job.handle.partition = job.handle.offset + 1
  below : x ≠ .requeue → Below topic initial g.position (· ∈ g.decided)

/-- What the stage of a call that listens says of a group. -/
def Agrees (topic : Topic) (initial : Positions) (g : Group) : Stage Handle → Prop
  | .reading _ _ => Below topic initial g.position (· ∈ g.decided)
  | .handling job | .waiting job _ => g.Holds topic initial job
  | .settling job x => g.Settles topic initial job x
  | _ => True

/-- What is committed was decided, and the group is where the call that listens has brought it. -/
structure Fits (topic : Topic) (initial : Positions) (g : Group) (stage : Stage Handle) : Prop where
  committed : Below topic initial g.committed (· ∈ g.decided)
  agrees : g.Agrees topic initial stage

theorem Follows.foreign {entry : Entry Handle} {rest : List (Entry Handle)}
    (hentry : isForeign entry = true) (h : Follows s topic g (entry :: rest) g') :
    Follows s topic g rest g' := by
  cases h with
  | cons hn hrest =>
    cases hn with
    | foreign => exact hrest
    | _ => cases hentry

theorem Follows.eq_of_foreign {entries : List (Entry Handle)}
    (hentries : ∀ entry ∈ entries, isForeign entry = true) (h : Follows s topic g entries g') :
    g' = g := by
  induction entries with
  | nil =>
    cases h
    rfl
  | cons entry rest ih =>
    exact ih (fun e he => hentries e (List.mem_cons_of_mem _ he))
      (h.foreign (hentries entry List.mem_cons_self))

variable {initial : Positions} {job : Job Handle} {x : Settlement}

/-- An answer of the handler is counted as a try. -/
theorem Holds.answered (h : g.Holds topic initial job) (result : Except HandlerError Unit) :
    (g.answered result).Holds topic initial job.tried := by
  obtain ⟨failure, hhand⟩ := h.hand
  cases result with
  | ok _ =>
    simp only [Group.answered, hhand]
    refine ⟨⟨none, rfl⟩, h.position, h.below.mono fun handle => ?_⟩
    exact Or.imp_left (List.mem_cons_of_mem _)
  | error e =>
    simp only [Group.answered, hhand]
    exact ⟨⟨some e, rfl⟩, h.position, h.below⟩

/-- A record whose try was the last one is decided when it is settled. -/
theorem Holds.settles (h : g.Holds topic initial job) {result : Except HandlerError Unit}
    (hd : s.options.decision job.tried.made result = .settle x) :
    ((g.answered result).offered s.options x job.handle).Settles topic initial job.tried x := by
  obtain ⟨failure, hhand⟩ := h.hand
  have hbelow : Below topic initial g.position (· ∈ job.handle :: g.decided) := by
    refine h.below.mono fun handle hdecided => ?_
    rcases hdecided with hdecided | rfl
    · exact List.mem_cons_of_mem _ hdecided
    · exact List.mem_cons_self
  rcases Options.decision_eq_settle hd with ⟨rfl, rfl⟩ | ⟨rfl, e, rfl, hlast⟩
  · have hg : (g.answered (.ok ())).offered s.options .ack job.handle
        = { g with hand := .settling job.handle .ack, decided := job.handle :: g.decided } := by
      simp [Group.answered, Group.offered, hhand]
    rw [hg]
    exact ⟨rfl, fun _ => h.position, fun _ => hbelow⟩
  · have hg : (g.answered (.error e)).offered s.options .reject job.handle
        = { g with hand := .settling job.handle .reject, decided := job.handle :: g.decided } := by
      have hgivesUp : givesUp s.options (oneMoreAttempt job.made) e = true := givesUp_iff.mpr hlast
      simp [Group.answered, Group.offered, hhand, hgivesUp]
    rw [hg]
    exact ⟨rfl, fun _ => h.position, fun _ => hbelow⟩

/-- A record that is handed back is not decided. -/
theorem Holds.handsBack (h : g.Holds topic initial job) :
    (g.offered s.options .requeue job.handle).Settles topic initial job .requeue := by
  obtain ⟨failure, hhand⟩ := h.hand
  simp only [Group.offered, hhand]
  exact ⟨rfl, fun hne => absurd rfl hne, fun hne => absurd rfl hne⟩

/-- What is committed stays below what is decided when the handler answers. -/
theorem committed_answered (result : Except HandlerError Unit)
    (h : Below topic initial g.committed (· ∈ g.decided)) :
    Below topic initial (g.answered result).committed (· ∈ (g.answered result).decided) := by
  unfold Group.answered
  split
  · cases result with
    | ok _ => exact h.mono fun _ => List.mem_cons_of_mem _
    | error e => exact h
  · exact h

/-- What is committed stays below what is decided when a settlement begins. -/
theorem committed_offered (o : Options) (x : Settlement) (handle : Handle)
    (h : Below topic initial g.committed (· ∈ g.decided)) :
    Below topic initial (g.offered o x handle).committed (· ∈ (g.offered o x handle).decided) := by
  unfold Group.offered
  split
  · refine h.mono fun other hmem => ?_
    show other ∈ ite _ _ _
    split
    · exact List.mem_cons_of_mem _ hmem
    · exact hmem
  · exact h

/-- The answer to a settlement, whether the position moves or not. -/
theorem Fits.settled {result : Except BrokerError Unit}
    (hf : g.Fits topic initial (.settling job x))
    (hn : Next s topic g (.came (.settled result)) g') :
    Below topic initial g'.committed (· ∈ g'.decided) ∧
      (x ≠ .requeue → Below topic initial g'.position (· ∈ g'.decided)) := by
  obtain ⟨hhand, hposition, hbelow⟩ : g.Settles topic initial job x := hf.agrees
  cases hn with
  | moved h x' result partition offset hhand' hx hnext =>
    rw [hhand] at hhand'
    cases hhand'
    have hne : x ≠ .requeue := by rcases hx with rfl | rfl <;> exact nofun
    obtain ⟨rfl, rfl⟩ := nextPosition_eq_at hnext
    rw [← hposition hne]
    exact ⟨hf.committed.commit (hbelow hne), hbelow⟩
  | kept => exact ⟨hf.committed, hbelow⟩
  | foreign _ h => cases h

variable {closed : Bool} {now : Instant} {span : Nat} {stage next : Stage Handle}
  {input : Input Handle} {asked : List (Request Handle)}

theorem Follows.turn (h : Follows s topic g (Entry.turn input asked) g') :
    ∃ g'', Next s topic g (.came input) g'' ∧ Follows s topic g'' (asked.map .asked) g' := by
  cases h with
  | cons hn hrest => exact ⟨_, hn, hrest⟩

theorem Follows.offered {h : Handle} {d : Delivery}
    (hf : Follows s topic g [.asked (.settle x h d)] g') : g' = g.offered s.options x h := by
  cases hf with
  | cons hn hrest =>
    cases hn with
    | offered =>
      cases hrest
      rfl
    | foreign _ hforeign => cases hforeign

/-- Every turn of a call that listens keeps what is committed below what is decided. -/
theorem Fits.turn (hplace : s.redelivery = .inPlace) (hf : g.Fits topic initial stage)
    (ht : s.Turns closed now span stage input next asked)
    (hfollows : Follows s topic g (Entry.turn input asked) g') : g'.Fits topic initial next := by
  obtain ⟨g₁, hn, hrest⟩ := hfollows.turn
  -- what is asked for but settlements is none of the group's business
  have hasked : (∀ r ∈ asked, isForeign (.asked r) = true) → g' = g₁ := by
    intro h
    refine hrest.eq_of_foreign fun entry hentry => ?_
    obtain ⟨r, hr, rfl⟩ := List.mem_map.mp hentry
    exact h r hr
  cases ht with
  | dismiss | enter | refused | halt | stale | dry | fault | finish | restart | retire | reopen
  | interrupt =>
    obtain rfl := hfollows.eq_of_foreign (by simp [Entry.turn, isForeign])
    exact ⟨hf.committed, trivial⟩
  | await =>
    obtain rfl := hasked (by simp [isForeign])
    cases hn with
    | opened => exact ⟨hf.committed, hf.committed⟩
    | foreign _ h => cases h
  | overflow =>
    obtain rfl := hasked (by simp)
    cases hn with
    | opened => exact ⟨hf.committed, trivial⟩
    | foreign _ h => cases h
  | take since deadline d h =>
    obtain rfl := hasked (by simp [isForeign])
    have hbelow : Below topic initial g.position (· ∈ g.decided) := hf.agrees
    cases hn with
    | delivered partition offset d _ _ hnone =>
      refine ⟨hf.committed, ⟨none, ?_⟩, Positions.move_self .., hbelow.read hnone⟩
      rw [Setup.jobOf, Setup.recorded_of_inPlace hplace]
    | foreign _ h => cases h
  | decide job result x hd =>
    have hholds : g.Holds topic initial job := hf.agrees
    obtain rfl := hrest.offered
    cases hn with
    | answered =>
      exact ⟨committed_offered _ _ _ (committed_answered _ hf.committed), hholds.settles hd⟩
    | foreign _ h => cases h
  | defer job result wait hd =>
    have hholds : g.Holds topic initial job := hf.agrees
    obtain rfl := hasked (by simp [isForeign])
    cases hn with
    | answered => exact ⟨committed_answered _ hf.committed, hholds.answered result⟩
    | foreign _ h => cases h
  | again =>
    obtain rfl := hfollows.eq_of_foreign (by simp [Entry.turn, isForeign])
    exact ⟨hf.committed, hf.agrees⟩
  | copy job wake hrepublish =>
    rw [hplace] at hrepublish
    cases hrepublish
  | giveBack job wake =>
    have hholds : g.Holds topic initial job := hf.agrees
    obtain rfl := hrest.offered
    cases hn with
    | foreign => exact ⟨committed_offered _ _ _ hf.committed, hholds.handsBack⟩
  | goOn job x result deadline hgoes =>
    obtain rfl := hasked (by simp [isForeign])
    obtain ⟨hcommitted, hread⟩ := hf.settled hn
    refine ⟨hcommitted, hread ?_⟩
    rintro rfl
    cases hgoes
  | goOnOverflow job x result =>
    obtain rfl := hasked (by simp [isForeign])
    exact ⟨(hf.settled hn).1, trivial⟩
  | giveUp job x result =>
    obtain rfl := hasked (by simp [isForeign])
    exact ⟨(hf.settled hn).1, trivial⟩

/-- A run of a call that listens keeps what is committed below what is decided. -/
theorem Fits.run {moments : List (Moment Handle)} {last : Stage Handle}
    {history : List (Entry Handle)} (hplace : s.redelivery = .inPlace)
    (hf : g.Fits topic initial stage) (hrun : s.run stage moments = some (last, history))
    (hfollows : Follows s topic g history g') : g'.Fits topic initial last := by
  have hstart : ∀ g', Follows s topic g [] g' → g'.Fits topic initial stage := by
    intro g' hg'
    cases hg'
    exact hf
  have hstep : ∀ m ∈ moments, ∀ stage next asked before,
      (∀ g', Follows s topic g before g' → g'.Fits topic initial stage) →
      s.Turns m.isClosed m.now m.span stage m.input next asked →
      ∀ g', Follows s topic g (before ++ Entry.turn m.input asked) g' →
        g'.Fits topic initial next := by
    intro m _ stage next asked before hbefore hturn g' hg'
    obtain ⟨g₁, hfirst, hlast⟩ := hg'.split
    exact (hbefore g₁ hfirst).turn hplace hturn hlast
  exact Setup.run_invariant hstep hstart hrun g' hfollows

/-- However many calls listen one after the other, what is committed stays below what is decided. -/
theorem Fits.calls {history : List (Entry Handle)} (hplace : s.redelivery = .inPlace)
    (hf : g.Fits topic initial .queued) (hcalls : s.Calls history)
    (hfollows : Follows s topic g history g') :
    Below topic initial g'.committed (· ∈ g'.decided) := by
  induction hcalls generalizing g with
  | last hrun => exact (hf.run hplace hrun hfollows).committed
  | next hrun _ _ ih =>
    obtain ⟨g₁, hfirst, hrest⟩ := hfollows.split
    exact ih ⟨(hf.run hplace hrun hfirst).committed, trivial⟩ hrest

/-- A group that has not begun to read has left nothing behind. -/
theorem fits_start (initial : Positions) : (start initial).Fits topic initial .queued :=
  ⟨fun _ _ _ hle hlt => absurd hle (Int.not_le.mpr hlt), trivial⟩

/-- Whatever the handler answers, whichever commits fail and whenever sessions end and the
subscriber is closed: a record that a committed position has left behind, and that the group was to
read, was handled, or it was rejected because it was given up. -/
theorem no_record_passed_over {history : List (Entry Handle)} (hplace : s.redelivery = .inPlace)
    (hcalls : s.Calls history) (hfollows : Follows s topic (start initial) history g) :
    ∀ partition offset d, topic partition offset = some d → initial partition ≤ offset →
      offset < g.committed partition → ⟨partition, offset⟩ ∈ g.decided := by
  intro partition offset d hrecord hle hlt
  have hsome : (topic partition offset).isSome = true := by
    rw [hrecord]
    rfl
  exact (fits_start initial).calls hplace hcalls hfollows partition offset hsome hle hlt

/-- Orders in two partitions, with a gap in the first one. -/
def orders : Topic := fun partition offset =>
  if partition = 0 ∧ (offset = 5 ∨ offset = 7) ∨ partition = 1 ∧ offset = 0 then some order
  else none

/-- One order is handled, the second one is rejected but not committed, and the third one is handed
back when the subscriber is closed. -/
def threeOrders : List (Moment Handle) :=
  [⟨false, 0, 1, .turn⟩, ⟨false, 0, 1, .opened (.ok ())⟩,
    ⟨false, 5, 1, .read (.ok (some (order, ⟨0, 5⟩)))⟩, ⟨false, 5, 2, .handled (.ok ())⟩,
    ⟨false, 5, 2, .settled (.ok ())⟩, ⟨false, 6, 2, .read (.ok (some (order, ⟨1, 0⟩)))⟩,
    ⟨false, 6, 3, .handled (.error (.terminal (.text "bad")))⟩,
    ⟨false, 6, 3, .settled (.error .acknowledging)⟩,
    ⟨false, 7, 3, .read (.ok (some (order, ⟨0, 7⟩)))⟩,
    ⟨false, 7, 4, .handled (.error (.retry (.text "busy")))⟩, ⟨true, 8, 4, .stop⟩,
    ⟨true, 8, 4, .settled (.ok ())⟩, ⟨true, 8, 4, .closed (.ok ())⟩]

/-- The first position is committed past the order that was handled, and no further. -/
theorem passed_over_none_of_threeOrders :
    ∃ history g, (Setup.ofOrders .inPlace).run .queued threeOrders = some (.returned, history) ∧
      Follows (Setup.ofOrders .inPlace) orders (start fun p => if p = 0 then 5 else 0) history g ∧
      g.committed 0 = 6 ∧ g.committed 1 = 0 ∧ g.decided = [⟨1, 0⟩, ⟨0, 5⟩] ∧
      ⟨0, 5⟩ ∈ g.decided := by
  -- there is nothing between the position and the record, or only a gap
  have hnext : ∀ {partition offset : Int} (earlier : Int), offset ≤ earlier → earlier < offset →
      orders partition earlier = none :=
    fun _ hle hlt => absurd hle (Int.not_le.mpr hlt)
  have hgap : ∀ earlier : Int, 6 ≤ earlier → earlier < 7 → orders 0 earlier = none := by
    intro earlier hle hlt
    obtain rfl : earlier = 6 := by omega
    rfl
  obtain ⟨history, g, hrun, hfollows, hfirst, hsecond, hdecided⟩ :
      ∃ history g, (Setup.ofOrders .inPlace).run .queued threeOrders = some (.returned, history) ∧
        Follows (Setup.ofOrders .inPlace) orders (start fun p => if p = 0 then 5 else 0) history g ∧
        g.committed 0 = 6 ∧ g.committed 1 = 0 ∧ g.decided = [⟨1, 0⟩, ⟨0, 5⟩] :=
    ⟨_, _, rfl,
      .cons (.foreign _ _ rfl) <| .cons (.foreign _ _ rfl) <|
      .cons (.opened _) <| .cons (.foreign _ _ rfl) <|
      .cons (.delivered _ 0 5 order rfl (by decide) hnext) <|
      .cons (.foreign _ _ rfl) <|
      .cons (.answered _ _) <| .cons (.offered _ _ _ _) <|
      .cons (.moved _ _ _ _ 0 6 rfl (.inl rfl) rfl) <| .cons (.foreign _ _ rfl) <|
      .cons (.delivered _ 1 0 order rfl (by decide) hnext) <|
      .cons (.foreign _ _ rfl) <|
      .cons (.answered _ _) <| .cons (.offered _ _ _ _) <| .cons (.kept _ _) <|
      .cons (.foreign _ _ rfl) <|
      .cons (.delivered _ 0 7 order rfl (by decide) hgap) <|
      .cons (.foreign _ _ rfl) <|
      .cons (.answered _ _) <| .cons (.foreign _ _ rfl) <| .cons (.foreign _ _ rfl) <|
      .cons (.offered _ _ _ _) <| .cons (.kept _ _) <| .cons (.foreign _ _ rfl) <|
      .cons (.foreign _ _ rfl) <| .nil _,
      rfl, rfl, rfl⟩
  refine ⟨history, g, hrun, hfollows, hfirst, hsecond, hdecided, ?_⟩
  exact no_record_passed_over rfl (.last hrun) hfollows 0 5 order rfl (by decide)
    (hfirst ▸ by decide)

end Group

end Courier.Kafka
