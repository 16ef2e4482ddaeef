import Mathlib.Algebra.Group.Nat.Defs
import Courier.Proofs.Amqp.Table
import Courier.Proofs.Subscriber.Run
import Courier.Subscriber.Step

/-!
# The lineage of a message

A message is followed through the calls that listen one after the other: the broker delivers it, a
call tries it, and a copy takes its place or it goes back to the broker. A `Lineage` says where the
message is and counts what has become of it. The tries that are left are bounded by what its headers
record, and this bound is carried from copy to copy.
-/

namespace Courier.Subscriber

universe u

variable {η : Type u}

/-! ## §1 Following a message -/

/-- Where a message is. -/
inductive Place where
  /-- With the broker. -/
  | waiting (delivery : Delivery)
  /-- With a call that has taken it. -/
  | taken (delivery : Delivery)
  /-- A call settles it; `given` is what the call has passed along. -/
  | offered (delivery : Delivery) (settlement : Settlement) (given : Delivery)
  /-- It was acknowledged or rejected. -/
  | gone
deriving DecidableEq, Repr

/-- Where a message is, how often it was tried, how often it was handed back as it was, and every
delivery that was replaced with the copy that was published for it. -/
structure Lineage where
  place : Place
  tries : Nat
  returns : Nat
  copies : List (Delivery × Delivery)
deriving DecidableEq, Repr

namespace Lineage

def start (d : Delivery) : Lineage := ⟨.waiting d, 0, 0, []⟩

/-- A message that is about to be delivered: as the broker has it, except that the broker marks what
it delivers again. -/
def deliver (l : Lineage) (d : Delivery) : Option Lineage :=
  match l.place with
  | .waiting d' =>
    if { d with redelivered := d'.redelivered } = d' then some { l with place := .taken d }
    else none
  | _ => none

/-- A call of the handler is a try of the message if the message was taken. -/
def tried (l : Lineage) : Lineage :=
  match l.place with
  | .taken _ => { l with tries := l.tries + 1 }
  | _ => l

/-- A settlement begins; it is one of the message if the message was taken. -/
def offer (l : Lineage) (x : Settlement) (given : Delivery) : Lineage :=
  match l.place with
  | .taken d => { l with place := .offered d x given }
  | _ => l

/-- A settlement has ended. The message is handed back when it was requeued and when no copy could
be published. -/
def settle (l : Lineage) (result : Except BrokerError Unit) : Lineage :=
  match l.place with
  | .offered d .requeue _ => { l with place := .waiting d, returns := l.returns + 1 }
  | .offered d .republish given =>
    match result with
    | .ok () => { l with place := .waiting given, copies := l.copies ++ [(d, given)] }
    | .error _ => { l with place := .waiting d, returns := l.returns + 1 }
  | .offered _ .ack _ | .offered _ .reject _ => { l with place := .gone }
  | _ => l

/-- What becomes of the message with an entry of a history, given which handles are those of the
message; nothing if the broker delivers something else in its place, or it more than once. -/
def next (mine : η → Bool) (l : Lineage) : Entry η → Option Lineage
  | .came (.read (.ok (some (d, h)))) => if mine h then l.deliver d else some l
  | .asked (.handle _ _) => some l.tried
  | .asked (.settle x _ given) => some (l.offer x given)
  | .came (.settled result) => some (l.settle result)
  | _ => some l

/-- What becomes of the message in a history. -/
def follow (mine : η → Bool) : Lineage → List (Entry η) → Option Lineage
  | l, [] => some l
  | l, entry :: rest => (l.next mine entry).bind fun l' => follow mine l' rest

theorem follow_append (mine : η → Bool) (l : Lineage) (a b : List (Entry η)) :
    l.follow mine (a ++ b) = (l.follow mine a).bind fun l' => l'.follow mine b := by
  induction a generalizing l with
  | nil => rfl
  | cons entry rest ih =>
    rw [List.cons_append, follow, follow, Option.bind_assoc]
    congr 1
    funext l'
    exact ih l'

end Lineage

/-- The history of calls that listen one after the other, each after the one before is over; the last
one need not be. -/
inductive Setup.Calls (s : Setup) : List (Entry η) → Prop where
  | last {moments : List (Moment η)} {stage : Stage η} {history : List (Entry η)} :
      s.run .queued moments = some (stage, history) → Calls s history
  | next {moments : List (Moment η)} {stage : Stage η} {history rest : List (Entry η)} :
      s.run .queued moments = some (stage, history) → stage.isOver = true → Calls s rest →
      Calls s (history ++ rest)

/-! ## §2 What is left for a message -/

/-- The tries that a limit leaves for a delivery; there is always one. -/
def triesLeft (most : Nat) (d : Delivery) : Nat := max 1 (most - d.recordedAttempts)

theorem triesLeft_pos (most : Nat) (d : Delivery) : 0 < triesLeft most d := by
  unfold triesLeft
  omega

/-- A broker that marks a delivery changes nothing about the tries that are left. -/
theorem triesLeft_mark {most : Nat} {d d' : Delivery}
    (h : { d with redelivered := d'.redelivered } = d') : triesLeft most d = triesLeft most d' := by
  have hheaders : { d with redelivered := d'.redelivered }.headers = d'.headers :=
    congrArg Delivery.headers h
  have hread : d.recordedAttempts = d'.recordedAttempts :=
    Delivery.recordedAttempts_congr hheaders
  rw [triesLeft, triesLeft, hread]

/-- A copy has one try less left, if there are tries left after the one before. -/
theorem triesLeft_copy {most : Nat} {d : Delivery} (hmost : most ≤ maxAttempts)
    (h : oneMoreAttempt d.recordedAttempts < most) :
    triesLeft most (d.recordAttempts (oneMoreAttempt d.recordedAttempts)) + 1
      = triesLeft most d := by
  have hmade : oneMoreAttempt d.recordedAttempts = d.recordedAttempts + 1 :=
    oneMoreAttempt_of_lt (Nat.lt_of_lt_of_le h hmost)
  have hread := d.recordedAttempts_recordAttempts (oneMoreAttempt_le d.recordedAttempts)
  rw [triesLeft, triesLeft, hread]
  omega

/-- How the place of a message agrees with the stage of a call, given the tries that were made and
those that may be made. The try that a call is at is counted already. -/
inductive Place.Fits (most tries budget : Nat) : Stage η → Place → Prop where
  | waiting (stage : Stage η) (d : Delivery) : tries + triesLeft most d ≤ budget →
      Fits most tries budget stage (.waiting d)
  | handling (job : Job η) : job.made = job.delivery.recordedAttempts →
      tries + triesLeft most job.delivery ≤ budget + 1 →
      Fits most tries budget (.handling job) (.taken job.delivery)
  | pausing (job : Job η) (wake : Instant) :
      job.made = oneMoreAttempt job.delivery.recordedAttempts → job.made < most →
      tries + triesLeft most job.delivery ≤ budget + 1 →
      Fits most tries budget (.waiting job wake) (.taken job.delivery)
  | dropping (job : Job η) (x : Settlement) (d given : Delivery) : x = .ack ∨ x = .reject →
      tries ≤ budget →
      Fits most tries budget (.settling job x) (.offered d x given)
  | returning (job : Job η) (d given : Delivery) : tries + triesLeft most d ≤ budget + 1 →
      Fits most tries budget (.settling job .requeue) (.offered d .requeue given)
  | copying (job : Job η) (d : Delivery) : oneMoreAttempt d.recordedAttempts < most →
      tries + triesLeft most d ≤ budget + 1 →
      Fits most tries budget (.settling job .republish)
        (.offered d .republish (d.recordAttempts (oneMoreAttempt d.recordedAttempts)))
  | gone (stage : Stage η) : tries ≤ budget → Fits most tries budget stage .gone

/-- Whatever the place of a message, no more tries were made than may be. -/
theorem Place.Fits.tries_le {most tries budget : Nat} {stage : Stage η} {place : Place}
    (h : place.Fits most tries budget stage) : tries ≤ budget := by
  cases h with
  | waiting _ d h =>
    have hpos := triesLeft_pos most d
    omega
  | handling job _ h =>
    have hpos := triesLeft_pos most job.delivery
    omega
  | pausing job _ _ _ h =>
    have hpos := triesLeft_pos most job.delivery
    omega
  | dropping _ _ _ _ _ h => exact h
  | returning _ d _ h =>
    have hpos := triesLeft_pos most d
    omega
  | copying _ d _ h =>
    have hpos := triesLeft_pos most d
    omega
  | gone _ h => exact h

/-- What holds of a message at a stage of a call: its place agrees with the stage, where `bound` is
the number of tries that may be made and every return adds one, and every copy counts one try more
than what it replaced. -/
structure Lineage.Fits (most bound : Nat) (stage : Stage η) (l : Lineage) : Prop where
  place : l.place.Fits most l.tries (bound + l.returns) stage
  copies : ∀ p ∈ l.copies, p.2 = p.1.recordAttempts (oneMoreAttempt p.1.recordedAttempts)

/-! ## §3 What a turn does to a message -/

namespace Lineage

/-- Whether a message is neither taken nor being settled. -/
def IsAbsent (l : Lineage) : Prop :=
  l.place = .gone ∨ ∃ d, l.place = .waiting d

private theorem next_of_absent {mine : η → Bool} {l : Lineage} {entry : Entry η} (hl : l.IsAbsent)
    (he : ∀ d h, entry ≠ .came (.read (.ok (some (d, h))))) : l.next mine entry = some l := by
  have htried : l.tried = l := by
    rcases hl with h | ⟨d, h⟩ <;> simp only [tried, h]
  have hoffer : ∀ x given, l.offer x given = l := by
    intro x given
    rcases hl with h | ⟨d, h⟩ <;> simp only [offer, h]
  have hsettle : ∀ result, l.settle result = l := by
    intro result
    rcases hl with h | ⟨d, h⟩ <;> simp only [settle, h]
  unfold next
  split
  · rename_i d h
    exact absurd rfl (he d h)
  · rw [htried]
  · rw [hoffer]
  · rw [hsettle]
  · rfl

private theorem follow_asked_of_absent {mine : η → Bool} {l : Lineage} (hl : l.IsAbsent)
    (asked : List (Request η)) : l.follow mine (asked.map .asked) = some l := by
  induction asked with
  | nil => rfl
  | cons request rest ih =>
    rw [List.map_cons, follow, next_of_absent hl (by intro d h; nofun)]
    exact ih

private theorem follow_turn_of_absent {mine : η → Bool} {l : Lineage} {input : Input η}
    {asked : List (Request η)} (hl : l.IsAbsent)
    (hi : ∀ d h, input ≠ .read (.ok (some (d, h)))) :
    l.follow mine (Entry.turn input asked) = some l := by
  have he : ∀ d h, Entry.came input ≠ .came (.read (.ok (some (d, h)))) := by
    intro d h heq
    cases heq
    exact hi d h rfl
  rw [Entry.turn, follow, next_of_absent hl he]
  exact follow_asked_of_absent hl asked

variable {s : Setup} {most bound : Nat} {closed : Bool} {now : Instant} {span : Nat}
  {mine : η → Bool} {l l' : Lineage}

private theorem fits_take {d : Delivery} {h : η} {context : Trace.Context} (hrepublish : s.redelivery = .republish)
    {stage : Stage η} (hf : l.Fits most bound stage) (hl : l.IsAbsent)
    (hfollow : l.follow mine (Entry.turn (.read (.ok (some (d, h)))) [.handle context d])
      = some l') :
    l'.Fits most bound (.handling (s.jobOf span d h)) := by
  have hrecorded : s.recorded d = d.recordedAttempts := Setup.recorded_of_republish hrepublish d
  rw [Entry.turn, follow, next] at hfollow
  cases hm : mine h with
  | false =>
    -- another message is taken, and the one that is followed stays where it is
    rw [hm, if_neg Bool.false_ne_true, Option.bind_some, follow_asked_of_absent hl] at hfollow
    cases hfollow
    obtain ⟨hplace, hcopies⟩ := hf
    refine ⟨?_, hcopies⟩
    rcases hl with hgone | ⟨d', hwaiting⟩
    · rw [hgone] at hplace ⊢
      exact .gone _ hplace.tries_le
    · rw [hwaiting] at hplace ⊢
      cases hplace with
      | waiting _ _ hleft => exact .waiting _ _ hleft
  | true =>
    rw [hm, if_pos rfl] at hfollow
    obtain ⟨hplace, hcopies⟩ := hf
    obtain ⟨place, tries, returns, copies⟩ := l
    rcases hl with rfl | ⟨d', rfl⟩
    · cases hfollow
    · cases hplace with
      | waiting _ _ hleft =>
        simp only [deliver] at hfollow
        by_cases hsame : { d with redelivered := d'.redelivered } = d'
        · rw [if_pos hsame] at hfollow
          cases hfollow
          -- the try is counted now, and what was left for it is not any more
          refine ⟨.handling (s.jobOf span d h) hrecorded ?_, hcopies⟩
          have hleft' : tries + triesLeft most d' ≤ bound + returns := hleft
          show tries + 1 + triesLeft most d ≤ bound + returns + 1
          rw [triesLeft_mark hsame]
          omega
        · rw [if_neg hsame] at hfollow
          cases hfollow

private theorem fits_handled {job : Job η} (hlimit : s.options.limit = .limited most)
    {tries returns : Nat} {copies : List (Delivery × Delivery)}
    (hcopies : ∀ p ∈ copies, p.2 = p.1.recordAttempts (oneMoreAttempt p.1.recordedAttempts))
    (hmade : job.made = job.delivery.recordedAttempts)
    (hleft : tries + triesLeft most job.delivery ≤ bound + returns + 1)
    {next : Stage η} {result : Except HandlerError Unit} {asked : List (Request η)}
    (ht : s.Turns closed now span (.handling job) (.handled result) next asked)
    (hfollow : follow mine ⟨.taken job.delivery, tries, returns, copies⟩
      (Entry.turn (.handled result) asked) = some l') : l'.Fits most bound next := by
  have hpos := triesLeft_pos most job.delivery
  cases ht with
  | decide _ _ x hd =>
    cases hfollow
    exact ⟨.dropping _ _ _ _ (Options.decision_settle hd) (by show tries ≤ bound + returns; omega),
      hcopies⟩
  | defer _ _ wait hd =>
    cases hfollow
    -- a pause is made only below the limit, so a copy will have a try left
    have hmost := Options.decision_retry hd
    rw [hlimit, AttemptLimit.isExhausted, decide_eq_false_iff_not, Nat.not_le] at hmost
    have htried : job.tried.made = oneMoreAttempt job.tried.delivery.recordedAttempts := by
      show oneMoreAttempt job.made = oneMoreAttempt job.delivery.recordedAttempts
      rw [hmade]
    exact ⟨.pausing job.tried _ htried hmost hleft, hcopies⟩

private theorem fits_paused {job : Job η} {wake : Instant} (hrepublish : s.redelivery = .republish)
    {tries returns : Nat} {copies : List (Delivery × Delivery)}
    (hcopies : ∀ p ∈ copies, p.2 = p.1.recordAttempts (oneMoreAttempt p.1.recordedAttempts))
    (hmade : job.made = oneMoreAttempt job.delivery.recordedAttempts) (hmost : job.made < most)
    (hleft : tries + triesLeft most job.delivery ≤ bound + returns + 1)
    {next : Stage η} {input : Input η} {asked : List (Request η)}
    (ht : s.Turns closed now span (.waiting job wake) input next asked)
    (hfollow : follow mine ⟨.taken job.delivery, tries, returns, copies⟩
      (Entry.turn input asked) = some l') : l'.Fits most bound next := by
  cases ht with
  | again _ _ hinPlace _ =>
    rw [hrepublish] at hinPlace
    cases hinPlace
  | copy _ _ _ _ =>
    cases hfollow
    refine ⟨?_, hcopies⟩
    show Place.Fits most tries (bound + returns) (.settling job.copied .republish)
      (.offered job.delivery .republish (job.delivery.recordAttempts job.made))
    rw [hmade] at hmost ⊢
    exact .copying _ _ hmost hleft
  | giveBack _ _ _ =>
    cases hfollow
    exact ⟨.returning _ _ _ hleft, hcopies⟩

private theorem fits_settled {job : Job η} {x : Settlement} {d given : Delivery}
    (hmost : most ≤ maxAttempts) {tries returns : Nat} {copies : List (Delivery × Delivery)}
    (hcopies : ∀ p ∈ copies, p.2 = p.1.recordAttempts (oneMoreAttempt p.1.recordedAttempts))
    (hplace : Place.Fits most tries (bound + returns) (.settling job x) (.offered d x given))
    {next : Stage η} {input : Input η} {asked : List (Request η)}
    (ht : s.Turns closed now span (.settling job x) input next asked)
    (hfollow : follow mine ⟨.offered d x given, tries, returns, copies⟩
      (Entry.turn input asked) = some l') : l'.Fits most bound next := by
  obtain ⟨result, hl'⟩ : ∃ result, settle ⟨.offered d x given, tries, returns, copies⟩ result
      = l' := by
    cases ht with
    | goOn _ _ result _ _ _ => exact ⟨result, Option.some.inj hfollow⟩
    | goOnOverflow _ _ result _ _ => exact ⟨result, Option.some.inj hfollow⟩
    | giveUp _ _ result _ _ => exact ⟨result, Option.some.inj hfollow⟩
  subst hl'
  cases hplace with
  | dropping _ _ _ _ hx hspent =>
    rcases hx with rfl | rfl
    · exact ⟨.gone _ hspent, hcopies⟩
    · exact ⟨.gone _ hspent, hcopies⟩
  | returning _ _ _ hleft =>
    -- the return adds one try to those that may be made
    refine ⟨.waiting _ _ ?_, hcopies⟩
    show tries + triesLeft most d ≤ bound + (returns + 1)
    omega
  | copying _ _ hmore hleft =>
    cases result with
    | ok _ =>
      -- the copy counts the try that was made, so the sum stays the same
      have hcopy := triesLeft_copy hmost hmore
      refine ⟨.waiting _ _ ?_, ?_⟩
      · show tries + triesLeft most _ ≤ bound + returns
        omega
      · intro p hp
        rcases List.mem_append.mp hp with hp | hp
        · exact hcopies p hp
        · rw [List.mem_singleton.mp hp]
    | error _ =>
      refine ⟨.waiting _ _ ?_, hcopies⟩
      show tries + triesLeft most d ≤ bound + (returns + 1)
      omega

/-- Every turn keeps what holds of a message. -/
theorem Fits.turn (hrepublish : s.redelivery = .republish)
    (hlimit : s.options.limit = .limited most) (hmost : most ≤ maxAttempts)
    {stage next : Stage η} {input : Input η} {asked : List (Request η)}
    (hf : l.Fits most bound stage) (ht : s.Turns closed now span stage input next asked)
    (hfollow : l.follow mine (Entry.turn input asked) = some l') : l'.Fits most bound next := by
  -- a message that is absent is changed by a delivery only, wherever the call is
  have absent (hl : l.IsAbsent)
      (hstage : ∀ stage' : Stage η, l.place.Fits most l.tries (bound + l.returns) stage') :
      l'.Fits most bound next := by
    by_cases hi : ∃ d h, input = .read (.ok (some (d, h)))
    · obtain ⟨d, h, rfl⟩ := hi
      cases ht with
      | take _ _ _ _ _ _ => exact fits_take hrepublish hf hl hfollow
    · rw [follow_turn_of_absent hl fun d h heq => hi ⟨d, h, heq⟩] at hfollow
      cases hfollow
      exact ⟨hstage next, hf.copies⟩
  obtain ⟨hplace, hcopies⟩ := hf
  obtain ⟨place, tries, returns, copies⟩ := l
  cases hplace with
  | waiting _ d hleft => exact absent (.inr ⟨d, rfl⟩) fun _ => .waiting _ d hleft
  | gone _ hspent => exact absent (.inl rfl) fun _ => .gone _ hspent
  | handling job hmade hleft =>
    cases input with
    | handled result => exact fits_handled hlimit hcopies hmade hleft ht hfollow
    | _ => cases ht
  | pausing job wake hmade hmore hleft =>
    exact fits_paused hrepublish hcopies hmade hmore hleft ht hfollow
  | dropping job x d given hx hspent =>
    exact fits_settled hmost hcopies (.dropping job x d given hx hspent) ht hfollow
  | returning job d given hleft =>
    exact fits_settled hmost hcopies (.returning job d given hleft) ht hfollow
  | copying job d hmore hleft =>
    exact fits_settled hmost hcopies (.copying job d hmore hleft) ht hfollow

/-! ## §4 Whole runs -/

/-- Every run keeps what holds of a message. -/
theorem Fits.run (hrepublish : s.redelivery = .republish)
    (hlimit : s.options.limit = .limited most) (hmost : most ≤ maxAttempts)
    {stage last : Stage η} {moments : List (Moment η)} {history : List (Entry η)}
    (hf : l.Fits most bound stage) (hrun : s.run stage moments = some (last, history))
    (hfollow : l.follow mine history = some l') : l'.Fits most bound last := by
  -- the run, with whatever is followed through the history so far
  let P : Stage η → List (Entry η) → Prop := fun stage history =>
    ∀ l', l.follow mine history = some l' → l'.Fits most bound stage
  have step : ∀ m ∈ moments, ∀ stage next asked before, P stage before →
      s.Turns m.isClosed m.now m.span stage m.input next asked →
      P next (before ++ Entry.turn m.input asked) := by
    intro m _ stage next asked before hP ht l'' h
    rw [follow_append] at h
    obtain ⟨l', hbefore, hturn⟩ := Option.bind_eq_some_iff.mp h
    exact (hP l' hbefore).turn hrepublish hlimit hmost ht hturn
  have start : P stage [] := by
    intro l' h
    cases h
    exact hf
  exact Setup.run_invariant step start hrun l' hfollow

/-- Between two calls a message is not in the hands of any. -/
theorem Fits.of_isOver {stage : Stage η} (hf : l.Fits most bound stage)
    (hover : stage.isOver = true) : l.Fits most bound (.queued : Stage η) := by
  obtain ⟨hplace, hcopies⟩ := hf
  obtain ⟨place, tries, returns, copies⟩ := l
  refine ⟨?_, hcopies⟩
  cases hplace with
  | waiting _ d hleft => exact .waiting _ d hleft
  | gone _ hspent => exact .gone _ hspent
  | handling _ _ _ => cases hover
  | pausing _ _ _ _ _ => cases hover
  | dropping _ _ _ _ _ _ => cases hover
  | returning _ _ _ _ => cases hover
  | copying _ _ _ _ => cases hover

/-- At the end of any number of calls what holds of a message holds at some stage. -/
theorem Fits.calls (hrepublish : s.redelivery = .republish)
    (hlimit : s.options.limit = .limited most) (hmost : most ≤ maxAttempts)
    {history : List (Entry η)} (hcalls : s.Calls history)
    (hf : l.Fits most bound (.queued : Stage η)) (hfollow : l.follow mine history = some l') :
    ∃ stage : Stage η, l'.Fits most bound stage := by
  -- on the calls: each begins with a message that none has in its hands
  induction hcalls generalizing l with
  | last hrun => exact ⟨_, hf.run hrepublish hlimit hmost hrun hfollow⟩
  | next hrun hover _ ih =>
    rw [follow_append] at hfollow
    obtain ⟨l'', hhistory, hrest⟩ := Option.bind_eq_some_iff.mp hfollow
    have hlast := hf.run hrepublish hlimit hmost hrun hhistory
    exact ih (hlast.of_isOver hover) hrest

/-- A message that is with the broker may be tried as often as the limit leaves tries for it. -/
theorem fits_start (d : Delivery) :
    (start d).Fits most (triesLeft most d) (.queued : Stage η) :=
  ⟨.waiting _ d (Nat.le_of_eq (Nat.zero_add _)), nofun⟩

end Lineage

/-- However often the calls that listen begin anew, fail to publish copies or are closed, and
whatever the handler answers: a message is tried at most as often as the limit leaves tries for its
first delivery, and once more for every time that it was handed back. Every copy that was published
is what it replaced with one try more in its headers, and that number is read back from them, also
after they have travelled as a field table. -/
theorem tries_of_message {s : Setup} {most : Nat} {mine : η → Bool} {d : Delivery}
    {history : List (Entry η)} {l : Lineage} (hrepublish : s.redelivery = .republish)
    (hlimit : s.options.limit = .limited most) (hmost : most < 2 ^ 32) (hcalls : s.Calls history)
    (hfollow : (Lineage.start d).follow mine history = some l) :
    l.tries ≤ max 1 (most - d.recordedAttempts) + l.returns ∧
    ∀ p ∈ l.copies, ∃ made, made = min (p.1.recordedAttempts + 1) (2 ^ 32 - 1) ∧
      p.2 = { p.1 with headers := p.1.headers.insert "x-retry-count" (Numeral.ofNat made) } ∧
      p.2.recordedAttempts = made ∧
      { p.2 with headers := (Amqp.Table.ofHeaders p.2.headers).toHeaders }.recordedAttempts
        = made := by
  have hmost' : most ≤ maxAttempts := Nat.le_sub_one_of_lt hmost
  obtain ⟨stage, hplace, hcopies⟩ :=
    (Lineage.fits_start d).calls hrepublish hlimit hmost' hcalls hfollow
  refine ⟨hplace.tries_le, ?_⟩
  intro p hp
  have hcopy := hcopies p hp
  have hread : p.2.recordedAttempts = oneMoreAttempt p.1.recordedAttempts := by
    rw [hcopy]
    exact Delivery.recordedAttempts_recordAttempts _ (oneMoreAttempt_le _)
  refine ⟨oneMoreAttempt p.1.recordedAttempts, rfl, hcopy, hread, ?_⟩
  rw [Amqp.Table.toHeaders_ofHeaders]
  exact hread

/-- The message of `retriedOrder` is tried twice, of three times that it may be, and its copy counts
the first try. -/
theorem tries_of_retriedOrder :
    ∃ l : Lineage, (Lineage.start order).follow (fun _ => true) retriedOrderHistory = some l ∧
      l.tries = 2 ∧ l.returns = 0 ∧ l.copies = [(order, order.recordAttempts 1)] ∧
      2 ≤ max 1 (3 - order.recordedAttempts) + 0 := by
  have hcalls : (Setup.ofOrders .republish).Calls retriedOrderHistory := .last run_retriedOrder
  have hfollow : (Lineage.start order).follow (fun _ => true) retriedOrderHistory
      = some ⟨.gone, 2, 0, [(order, order.recordAttempts 1)]⟩ := rfl
  exact ⟨_, hfollow, rfl, rfl, rfl, (tries_of_message rfl rfl (by decide) hcalls hfollow).1⟩

end Courier.Subscriber
