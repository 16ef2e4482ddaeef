import Mathlib.Data.Nat.Find
import Courier.Proofs.Subscriber.Redelivery
import Courier.Proofs.Subscriber.Time

/-!
# Dispatching within a session

A delivery that is tried within its session is handed to the handler until it succeeds or no other
try is allowed, and is settled once. Which try is the last one is said by `Options.IsFinal` of the
results alone, and what a dispatch does up to a number of tries by `Trying` and `Dispatched`, without
any loop. What comes to a call from a delivery on agrees with them (`dispatch_of_run`).
-/

namespace Courier.Subscriber

universe u

variable {η : Type u}

/-! ## §1 The last try -/

/-- What the policy says after the try of a number, counted from zero. It is asked about the tries
that are counted, and it counts from zero as well. -/
def Options.verdict (o : Options) (k : Nat) : Verdict := o.backoff (counted (k + 1) - 1)

/-- Whether the try of a number, counted from zero, is the last one: it succeeds, it must not be
repeated, no try is left, or the policy says to stop. -/
def Options.IsFinal (o : Options) (results : Nat → Except HandlerError Unit) (k : Nat) : Prop :=
  results k = .ok () ∨ (∃ e, results k = .error e ∧ e.retryable = false) ∨
    (∃ most, o.limit = .limited most ∧ most ≤ k + 1) ∨ (o.verdict k).stop = true

/-- The last try is the first one that is final. -/
def Options.IsLast (o : Options) (results : Nat → Except HandlerError Unit) (n : Nat) : Prop :=
  o.IsFinal results n ∧ ∀ k < n, ¬o.IsFinal results k

/-- How a delivery is settled after its last try. -/
def settlementOf : Except HandlerError Unit → Settlement
  | .ok _ => .ack
  | .error _ => .reject

variable {o : Options} {results : Nat → Except HandlerError Unit}

theorem Options.isExhausted_counted (hfits : ∀ most, o.limit = .limited most → most ≤ maxAttempts)
    (k : Nat) : o.limit.isExhausted (counted (k + 1)) = true ↔
      ∃ most, o.limit = .limited most ∧ most ≤ k + 1 := by
  cases hl : o.limit with
  | unlimited => exact ⟨nofun, nofun⟩
  | limited most =>
    have hmost := hfits most hl
    refine decide_eq_true_iff.trans
      ⟨fun hle => ⟨most, rfl, Nat.le_trans hle (Nat.min_le_left _ _)⟩, ?_⟩
    rintro ⟨_, ⟨⟩, hle⟩
    exact Nat.le_min.mpr ⟨hle, hmost⟩

/-- The last try is followed by the settlement, and every other one by a pause. -/
theorem Options.decision_counted (hfits : ∀ most, o.limit = .limited most → most ≤ maxAttempts)
    (k : Nat) :
    o.IsFinal results k ∧
      o.decision (counted (k + 1)) (results k) = .settle (settlementOf (results k)) ∨
    ¬o.IsFinal results k ∧
      o.decision (counted (k + 1)) (results k) = .retry (o.verdict k).wait := by
  have hexhausted := isExhausted_counted hfits k
  cases hresult : results k with
  | ok _ => exact .inl ⟨.inl hresult, rfl⟩
  | error e =>
    by_cases hlast : e.retryable = false ∨ o.limit.isExhausted (counted (k + 1)) = true
    · refine .inl ⟨.inr ?_, decision_last hlast⟩
      rcases hlast with hr | hl
      · exact .inl ⟨e, hresult, hr⟩
      · exact .inr (.inl (hexhausted.mp hl))
    · rw [not_or, Bool.not_eq_false, Bool.not_eq_true] at hlast
      have hd := decision_paced hlast.1 hlast.2
      cases hstop : (o.verdict k).stop with
      | true => exact .inl ⟨.inr (.inr (.inr hstop)), hd.trans (if_pos hstop)⟩
      | false =>
        refine .inr ⟨?_, hd.trans (if_neg (by rw [← verdict, hstop]; exact Bool.false_ne_true))⟩
        rintro (hok | ⟨e', he, hr⟩ | hl | hs)
        · rw [hresult] at hok
          cases hok
        · rw [hresult] at he
          cases he
          rw [hlast.1] at hr
          cases hr
        · rw [hexhausted.mpr hl] at hlast
          cases hlast.2
        · rw [hstop] at hs
          cases hs

theorem Options.IsLast.unique {m n : Nat} (hm : o.IsLast results m) (hn : o.IsLast results n) :
    m = n :=
  Nat.le_antisymm (Nat.le_of_not_lt fun hlt => hm.2 n hlt hn.1)
    (Nat.le_of_not_lt fun hlt => hn.2 m hlt hm.1)

/-- If some try is final, the first of them is the last one. -/
theorem Options.IsFinal.exists_isLast {k : Nat} (h : o.IsFinal results k) :
    ∃ n ≤ k, o.IsLast results n := by
  classical
  have hexists : ∃ n, o.IsFinal results n := ⟨k, h⟩
  exact ⟨Nat.find hexists, Nat.find_min' hexists h, Nat.find_spec hexists,
    fun _ hlt => Nat.find_min hexists hlt⟩

/-- As many tries as the limit allows are enough. -/
theorem Options.exists_isLast {most : Nat} (hlimit : o.limit = .limited most) (hpos : 0 < most) :
    ∃ n < most, o.IsLast results n := by
  have hfinal : o.IsFinal results (most - 1) :=
    .inr (.inr (.inl ⟨most, hlimit, Nat.le_of_eq (Nat.sub_add_cancel hpos).symm⟩))
  obtain ⟨n, hle, hn⟩ := hfinal.exists_isLast
  exact ⟨n, Nat.lt_of_le_of_lt hle (Nat.sub_one_lt_of_lt hpos), hn⟩

/-! ## §2 The course of a dispatch -/

/-- What comes to a call from the taking of a delivery on, up to the call of the handler after a
number of failures: after each of them a pause, as long as the policy says, and then the same
delivery again, in the same context. -/
inductive Trying (o : Options) (results : Nat → Except HandlerError Unit) (d : Delivery)
    (handle : η) (context : Trace.Context) : Nat → List (Act η) → Prop where
  | taken (now : Instant) : Trying o results d handle context 0
      [⟨now, .read (.ok (some (d, handle))), [.handle context d]⟩]
  | again {k : Nat} {acts : List (Act η)} (now : Instant) :
      Trying o results d handle context k acts →
      Trying o results d handle context (k + 1) (acts ++
        [⟨now, .handled (results k), [.sleep (o.verdict k).wait]⟩,
          ⟨now.after (o.verdict k).wait, .elapsed, [.handle context d]⟩])

/-- What comes to a call from the taking of a delivery on, up to the end of its settlement: after
the last try one settlement, and then the next delivery is awaited whatever has come of it, if a
clock can count the deadline. -/
inductive Dispatched (o : Options) (results : Nat → Except HandlerError Unit) (d : Delivery)
    (handle : η) (context : Trace.Context) :
    Nat → Except BrokerError Unit → List (Act η) → Prop where
  | settled {n : Nat} {acts : List (Act η)} (now later : Instant)
      (result : Except BrokerError Unit) (asked : List (Request η)) :
      Trying o results d handle context n acts →
      (asked = [.read] ∨ asked = [] ∧ later.add? o.staleTimeout = none) →
      Dispatched o results d handle context n result (acts ++
        [⟨now, .handled (results n), [.settle (settlementOf (results n)) handle d]⟩,
          ⟨later, .settled result, asked⟩])

/-- What has come to a call since it took its last delivery, the first act first. -/
def dispatch : List (Act η) → List (Act η)
  | [] => []
  | act :: before =>
    if act.input.takes then [act]
    else match dispatch before with
      | [] => []
      | first :: acts => first :: acts ++ [act]

/-- The answers of the handler. -/
def answers (acts : List (Act η)) : List (Except HandlerError Unit) :=
  acts.filterMap fun act => match act.input with
    | .handled result => some result
    | _ => none

/-- Whether the handler answers as it is said, one try after the other. -/
def Follows (results : Nat → Except HandlerError Unit) (acts : List (Act η)) : Prop :=
  ∀ k result, (answers acts)[k]? = some result → results k = result

/-- Whether a delivery is settled in an act. -/
def Act.Settles (act : Act η) : Prop := ∃ x handle d, .settle x handle d ∈ act.asked

/-- Whether a delivery is handed to the handler in an act. -/
def Act.Hands (act : Act η) : Prop := ∃ context d, .handle context d ∈ act.asked

/-- Whether a dispatch is over after its last try: whatever else has come to the call since then,
nothing was done about a delivery. -/
def IsOver (o : Options) (results : Nat → Except HandlerError Unit) (d : Delivery) (handle : η)
    (context : Trace.Context) (n : Nat) (acts : List (Act η)) : Prop :=
  ∃ result whole rest, Dispatched o results d handle context n result whole ∧ acts = whole ++ rest ∧
    ∀ act ∈ rest, ¬act.Hands ∧ ¬act.Settles

/-- How far a dispatch has come when a call is at a stage. -/
def Stage.Dispatches (o : Options) (results : Nat → Except HandlerError Unit) (clock : Instant)
    (acts : List (Act η)) : Stage η → Prop
  | .handling job => ∃ k, Trying o results job.delivery job.handle job.context k acts ∧
      job.made = counted k ∧ ∀ i < k, ¬o.IsFinal results i
  | .waiting job wake => ∃ k before now,
      Trying o results job.delivery job.handle job.context k before ∧
      acts = before ++ [⟨now, .handled (results k), [.sleep (o.verdict k).wait]⟩] ∧
      wake = now.after (o.verdict k).wait ∧ clock ≤ wake ∧ job.made = counted (k + 1) ∧
      ∀ i < k + 1, ¬o.IsFinal results i
  | .settling job x => ∃ n before now,
      Trying o results job.delivery job.handle job.context n before ∧
      acts = before ++ [⟨now, .handled (results n),
        [.settle (settlementOf (results n)) job.handle job.delivery]⟩] ∧
      x = settlementOf (results n) ∧ o.IsLast results n
  | _ => acts = [] ∨ ∃ d handle context n,
      IsOver o results d handle context n acts ∧ o.IsLast results n

/-! ## §3 Acts of a dispatch -/

variable {act : Act η} {course before : List (Act η)} {d : Delivery} {handle : η}
  {context : Trace.Context} {k : Nat}

private theorem ne_nil_of_concat (h : course = before ++ [act]) : course ≠ [] :=
  h ▸ List.concat_ne_nil act before

theorem dispatch_of_takes (h : act.input.takes = true) : dispatch (act :: before) = [act] :=
  if_pos h

theorem dispatch_cons (h : act.input.takes = false) (hne : dispatch before ≠ []) :
    dispatch (act :: before) = dispatch before ++ [act] := by
  rw [dispatch, if_neg (by rw [h]; exact Bool.false_ne_true)]
  cases hd : dispatch before with
  | nil => exact absurd hd hne
  | cons first rest => rfl

theorem dispatch_cons_of_nil (h : act.input.takes = false) (hnil : dispatch before = []) :
    dispatch (act :: before) = [] := by
  rw [dispatch, if_neg (by rw [h]; exact Bool.false_ne_true), hnil]

theorem answers_append (a b : List (Act η)) : answers (a ++ b) = answers a ++ answers b :=
  List.filterMap_append

theorem Follows.of_append {later : List (Act η)} (h : Follows results (course ++ later)) :
    Follows results course := by
  intro k result hk
  refine h k result ?_
  rw [answers_append, List.getElem?_append_left (List.getElem?_eq_some_iff.mp hk).1]
  exact hk

theorem Follows.of_cons (h : act.input.takes = false)
    (hf : Follows results (dispatch (act :: before))) : Follows results (dispatch before) := by
  by_cases hnil : dispatch before = []
  · rw [hnil]
    exact fun _ _ hk => nomatch hk
  · rw [dispatch_cons h hnil] at hf
    exact hf.of_append

/-- As many answers were given as tries have failed. -/
theorem Trying.length_answers (h : Trying o results d handle context k course) :
    (answers course).length = k := by
  induction h with
  | taken now => rfl
  | again now _ ih =>
    rw [answers_append, List.length_append, ih]
    rfl

theorem Trying.ne_nil (h : Trying o results d handle context k course) : course ≠ [] := by
  cases h with
  | taken now => exact List.cons_ne_nil _ _
  | again now _ => exact List.append_ne_nil_of_right_ne_nil _ (List.cons_ne_nil _ _)

/-- A delivery that is tried was taken at first, and handed to the handler. -/
theorem Trying.head? {whole : List (Act η)} (h : Trying o results d handle context k course)
    (hinitial : course <+: whole) :
    ∃ now, whole.head? = some ⟨now, .read (.ok (some (d, handle))), [.handle context d]⟩ := by
  induction h with
  | taken now =>
    obtain ⟨rest, rfl⟩ := hinitial
    exact ⟨now, rfl⟩
  | again now _ ih => exact ih ((List.prefix_append _ _).trans hinitial)

/-- The delivery that is tried is the one that was taken at first. -/
theorem Trying.same {d' : Delivery} {handle' : η} {context' : Trace.Context} {taken : Instant}
    {whole : List (Act η)} (h : Trying o results d handle context k course)
    (hinitial : course <+: whole) (hfirst : whole.head?
      = some ⟨taken, .read (.ok (some (d', handle'))), [.handle context' d']⟩) :
    d = d' ∧ handle = handle' ∧ context = context' := by
  obtain ⟨now, hhead⟩ := h.head? hinitial
  rw [hhead] at hfirst
  cases hfirst
  exact ⟨rfl, rfl, rfl⟩

/-- The next answer is the one to the next try. -/
theorem Trying.answered {now : Instant} {result : Except HandlerError Unit}
    {asked : List (Request η)} (h : Trying o results d handle context k course)
    (hf : Follows results (course ++ [⟨now, .handled result, asked⟩])) : results k = result := by
  refine hf k result ?_
  have hanswer : answers [(⟨now, .handled result, asked⟩ : Act η)] = [result] := rfl
  rw [answers_append, hanswer, ← h.length_answers, List.getElem?_concat_length]

theorem Job.made_tried {job : Job η} (h : job.made = counted k) :
    job.tried.made = counted (k + 1) := by
  show oneMoreAttempt job.made = counted (k + 1)
  rw [h, oneMoreAttempt_counted]

/-- What is decided after the next answer of the handler. -/
theorem Options.decision_tried (hfits : ∀ most, o.limit = .limited most → most ≤ maxAttempts)
    {job : Job η} (hmade : job.made = counted k) :
    o.IsFinal results k ∧
      o.decision job.tried.made (results k) = .settle (settlementOf (results k)) ∨
    ¬o.IsFinal results k ∧
      o.decision job.tried.made (results k) = .retry (o.verdict k).wait := by
  have htried : job.tried.made = counted (k + 1) := Job.made_tried hmade
  rw [htried]
  exact decision_counted hfits k

/-! ## §4 Turns of a dispatch -/

variable {setup : Setup} {clock : Instant} {span : Nat} {stage next : Stage η} {input : Input η}
  {asked : List (Request η)}

/-- A dispatch that is over, or has not begun, stays so. -/
private theorem dispatches_apart (h : act.input.takes = false) (hhands : ¬act.Hands)
    (hsettles : ¬act.Settles)
    (hbefore : dispatch before = [] ∨ ∃ d handle context n,
      IsOver o results d handle context n (dispatch before) ∧ o.IsLast results n) :
    dispatch (act :: before) = [] ∨ ∃ d handle context n,
      IsOver o results d handle context n (dispatch (act :: before)) ∧ o.IsLast results n := by
  by_cases hnil : dispatch before = []
  · exact .inl (dispatch_cons_of_nil h hnil)
  · obtain ⟨d, handle, context, n, ⟨result, whole, rest, hwhole, hacts, hrest⟩, hlast⟩ :=
      hbefore.resolve_left hnil
    refine .inr ⟨d, handle, context, n, ⟨result, whole, rest ++ [act], hwhole, ?_, ?_⟩, hlast⟩
    · rw [dispatch_cons h hnil, hacts, List.append_assoc]
    · intro act' hact
      rcases List.mem_append.mp hact with hact | hact
      · exact hrest act' hact
      · obtain rfl := List.mem_singleton.mp hact
        exact ⟨hhands, hsettles⟩

/-- A settlement ends a dispatch, and the next delivery is awaited. -/
private theorem dispatches_settled {job : Job η} {x : Settlement}
    {result : Except BrokerError Unit} (hinput : act.input = .settled result)
    (hasked : act.asked = [.read] ∨ act.asked = [] ∧ act.now.add? o.staleTimeout = none)
    (hbefore : Stage.Dispatches o results clock (dispatch before) (.settling job x)) :
    dispatch (act :: before) = [] ∨ ∃ d handle context n,
      IsOver o results d handle context n (dispatch (act :: before)) ∧ o.IsLast results n := by
  obtain ⟨n, earlier, now, htrying, hacts, _, hlast⟩ := hbefore
  obtain ⟨later, input, asked⟩ := act
  cases hinput
  rw [dispatch_cons rfl (ne_nil_of_concat hacts), hacts, List.append_assoc]
  exact .inr ⟨_, _, _, n, ⟨result, _, [], .settled now later result asked htrying hasked,
    (List.append_nil _).symm, nofun⟩, hlast⟩

/-- Every turn of a call that tries deliveries within its session keeps to the course of the
dispatch. -/
theorem Setup.Turns.dispatches (h : setup.Turns false clock span stage input next asked)
    (hplace : setup.redelivery = .inPlace)
    (hfits : ∀ most, setup.options.limit = .limited most → most ≤ maxAttempts)
    (hstage : ∀ results, Follows results (dispatch before) →
      stage.Dispatches setup.options results clock (dispatch before))
    (hf : Follows results (dispatch (⟨clock, input, asked⟩ :: before))) :
    next.Dispatches setup.options results clock (dispatch (⟨clock, input, asked⟩ :: before)) := by
  cases h with
  | take since deadline d handle _ _ =>
    rw [dispatch_of_takes rfl]
    refine ⟨0, .taken clock, ?_, nofun⟩
    exact setup.recorded_of_inPlace hplace d
  | decide job result x hd =>
    obtain ⟨k, htrying, hmade, hearlier⟩ := hstage results (hf.of_cons rfl)
    rw [dispatch_cons rfl htrying.ne_nil] at hf ⊢
    obtain rfl := htrying.answered hf
    rcases Options.decision_tried hfits hmade with ⟨hfinal, hsettle⟩ | ⟨_, hretry⟩
    · rw [hsettle] at hd
      cases hd
      exact ⟨k, _, clock, htrying, rfl, rfl, hfinal, hearlier⟩
    · rw [hretry] at hd
      cases hd
  | defer job result wait hd =>
    obtain ⟨k, htrying, hmade, hearlier⟩ := hstage results (hf.of_cons rfl)
    rw [dispatch_cons rfl htrying.ne_nil] at hf ⊢
    obtain rfl := htrying.answered hf
    rcases Options.decision_tried hfits hmade with ⟨_, hsettle⟩ | ⟨hmore, hretry⟩
    · rw [hsettle] at hd
      cases hd
    · rw [hretry] at hd
      cases hd
      refine ⟨k, _, clock, htrying, rfl, rfl, Nat.le_add_right _ _,
        Job.made_tried hmade, fun i hi => ?_⟩
      rcases Nat.lt_succ_iff_lt_or_eq.mp hi with hlt | rfl
      · exact hearlier i hlt
      · exact hmore
  | again job wake _ hwake =>
    obtain ⟨k, earlier, now, htrying, hacts, rfl, hclock, hmade, hearlier⟩ :=
      hstage results (hf.of_cons rfl)
    -- the pause is over when its end has come, which is now
    obtain rfl := Nat.le_antisymm hclock hwake
    rw [dispatch_cons rfl (ne_nil_of_concat hacts), hacts, List.append_assoc]
    exact ⟨k + 1, htrying.again now, hmade, hearlier⟩
  | goOn job x result deadline _ hd =>
    exact dispatches_settled rfl (.inl rfl) (hstage results (hf.of_cons rfl))
  | goOnOverflow job x result _ hn =>
    exact dispatches_settled rfl (.inr ⟨rfl, hn⟩) (hstage results (hf.of_cons rfl))
  | giveUp job x result ending he =>
    obtain ⟨k, _, _, _, _, rfl, _⟩ := hstage results (hf.of_cons rfl)
    -- neither an acknowledgement nor a rejection ends the session
    cases hresult : results k with
    | ok _ | error _ =>
      rw [hresult] at he
      cases he
  | copy job wake hrepublish _ =>
    rw [hplace] at hrepublish
    cases hrepublish
  | dismiss hc | halt _ _ hc | giveBack _ _ hc | retire _ hc _ | interrupt _ hc => cases hc
  | _ =>
    exact dispatches_apart rfl (by simp [Act.Hands]) (by simp [Act.Settles])
      (hstage results (hf.of_cons rfl))

/-! ## §5 Runs -/

variable {history : List (Beat η)} {s : Subscriber η} {t : Nat}

/-- In every run in time a call that tries deliveries within its session keeps to the course of the
dispatch. -/
theorem TimedRun.dispatches (h : TimedRun setup clock history s) (hopen : s.isClosed = false)
    (hplace : setup.redelivery = .inPlace)
    (hfits : ∀ most, setup.options.limit = .limited most → most ≤ maxAttempts)
    (hat : s.IsAt t stage) (hf : Follows results (dispatch (acts t history))) :
    stage.Dispatches setup.options results clock (dispatch (acts t history)) := by
  refine h.acting (P := fun clock acts stage => ∀ results, Follows results (dispatch acts) →
    stage.Dispatches setup.options results clock (dispatch acts)) hopen hat ?_ ?_ ?_ results hf
  · exact fun _ _ _ => .inl rfl
  · intro clock acts stage hstage hdue results hf
    have hbefore := hstage results hf
    cases stage with
    | waiting job wake =>
      obtain ⟨k, before, now, htrying, hacts, hwake, _, hmade⟩ := hbefore
      exact ⟨k, before, now, htrying, hacts, hwake, hdue wake rfl, hmade⟩
    | _ => exact hbefore
  · intro clock acts span stage input next asked hstage hturn results hf
    exact hturn.dispatches hplace hfits hstage hf

/-- Whether a run can go on in time, without the end being signalled, so that the dispatch of a call
has grown to these acts. -/
def CanGrow (setup : Setup) (history : List (Beat η)) (t : Nat) (grown : List (Act η)) : Prop :=
  ∃ clock later s, TimedRun setup clock (later ++ history) s ∧ s.isClosed = false ∧
    dispatch (acts t (later ++ history)) = grown

theorem CanGrow.of_cons {beat : Beat η} {grown : List (Act η)}
    (h : CanGrow setup (beat :: history) t grown) : CanGrow setup history t grown := by
  obtain ⟨clock, later, s, hrun, hopen, hgrown⟩ := h
  rw [List.append_cons] at hrun hgrown
  exact ⟨clock, later ++ [beat], s, hrun, hopen, hgrown⟩

/-- A step of a call that works on a delivery adds an act to the dispatch. -/
theorem TimedRun.grows {events : List (Event η)} (h : TimedRun setup clock history s)
    (hb : s.IsBusyAt t stage)
    (hl : setup.listen s.isClosed clock (s.taken + 1) stage input = some (next, events))
    (htakes : input.takes = false) (hne : dispatch (acts t history) ≠ []) :
    ∃ beat, TimedRun setup clock (beat :: history) (s.advance t input next) ∧
      dispatch (acts t (beat :: history))
        = dispatch (acts t history) ++ [⟨clock, input, requests events⟩] := by
  refine ⟨⟨clock, .input t input, events, _⟩, h.step _ (hb.step hl), ?_⟩
  rw [acts_input]
  exact dispatch_cons htakes hne

/-- A settlement that is under way can come to any end. -/
theorem TimedRun.settles {job : Job η} {x : Settlement} (h : TimedRun setup clock history s)
    (hopen : s.isClosed = false) (hb : s.IsBusyAt t (.settling job x)) (hx : x = .ack ∨ x = .reject)
    (hne : dispatch (acts t history) ≠ []) (result : Except BrokerError Unit) :
    ∃ asked, CanGrow setup history t
        (dispatch (acts t history) ++ [⟨clock, .settled result, asked⟩]) ∧
      (asked = [.read] ∨ asked = [] ∧ clock.add? setup.options.staleTimeout = none) := by
  have hl : setup.listen s.isClosed clock (s.taken + 1) (.settling job x) (.settled result)
      = some (setup.settled clock job x result) := rfl
  generalize setup.settled clock job x result = effect at hl
  obtain ⟨next, events⟩ := effect
  obtain ⟨beat, hrun, hgrown⟩ := h.grows hb hl rfl hne
  refine ⟨requests events, ⟨clock, [beat], _, hrun, hopen, hgrown⟩, ?_⟩
  have hturn := turns_of_listen hl
  generalize requests events = asked at hturn ⊢
  cases hturn with
  | goOn => exact .inl rfl
  | goOnOverflow _ _ _ _ hn => exact .inr ⟨rfl, hn⟩
  | giveUp _ _ _ _ he => rcases hx with rfl | rfl <;> cases he

/-- A pause ends, and the same delivery is tried again. -/
theorem TimedRun.resumes {job : Job η} {wake : Instant} (h : TimedRun setup clock history s)
    (hopen : s.isClosed = false) (hb : s.IsBusyAt t (.waiting job wake)) (hle : clock ≤ wake)
    (hplace : setup.redelivery = .inPlace) (hne : dispatch (acts t history) ≠ []) :
    ∃ beat s', TimedRun setup wake (beat :: history) s' ∧ s'.isClosed = false ∧
      s'.IsBusyAt t (.handling job) ∧ dispatch (acts t (beat :: history))
        = dispatch (acts t history)
          ++ [⟨wake, .elapsed, [.handle job.context job.delivery]⟩] := by
  have hwaited := h.wait hle fun _ _ hlt => rests_of_waiting hb hopen hlt
  obtain ⟨beat, hrun, hgrown⟩ := hwaited.grows hb (listen_again _ _ job wake hplace) rfl hne
  exact ⟨beat, _, hrun, hopen, hb.advance rfl, hgrown⟩

theorem settlementOf_eq (result : Except HandlerError Unit) :
    settlementOf result = .ack ∨ settlementOf result = .reject := by
  cases result with
  | ok _ => exact .inl rfl
  | error _ => exact .inr rfl

/-- While the handler is at work on a delivery, the dispatch can come to its end, in each way in
which the settlement can. -/
theorem TimedRun.completes {job : Job η} {n left : Nat} (h : TimedRun setup clock history s)
    (hopen : s.isClosed = false) (hplace : setup.redelivery = .inPlace)
    (hfits : ∀ most, setup.options.limit = .limited most → most ≤ maxAttempts)
    (hb : s.IsBusyAt t (.handling job))
    (htrying : Trying setup.options results job.delivery job.handle job.context k
      (dispatch (acts t history)))
    (hmade : job.made = counted k) (hlast : setup.options.IsLast results n) (hleft : k + left = n)
    (result : Except BrokerError Unit) :
    ∃ grown, CanGrow setup history t grown ∧ dispatch (acts t history) <+: grown ∧
      Dispatched setup.options results job.delivery job.handle job.context n result grown := by
  -- on the number of tries that are left: with none left the delivery is settled
  induction left generalizing clock history s k job with
  | zero =>
    obtain rfl : k = n := hleft
    obtain ⟨_, hd⟩ := (Options.decision_tried hfits hmade).resolve_right fun hmore =>
      hmore.1 hlast.1
    obtain ⟨events, hl, hasked⟩ := listen_handled s.isClosed clock (s.taken + 1) hd
    obtain ⟨beat, hrun, hgrown⟩ := h.grows hb hl rfl htrying.ne_nil
    obtain ⟨asked, hcan, hnext⟩ := hrun.settles hopen (hb.advance rfl) (settlementOf_eq _)
      (ne_nil_of_concat hgrown) result
    rw [hgrown, hasked, List.append_assoc] at hcan
    exact ⟨_, hcan.of_cons, List.prefix_append _ _, .settled clock clock result asked htrying hnext⟩
  | succ left ih =>
    have hlt : k < n := by omega
    obtain ⟨_, hd⟩ := (Options.decision_tried hfits hmade).resolve_left fun hfinal =>
      hlast.2 k hlt hfinal.1
    obtain ⟨events, hl, hasked⟩ := listen_handled s.isClosed clock (s.taken + 1) hd
    obtain ⟨beat, hrun, hgrown⟩ := h.grows hb hl rfl htrying.ne_nil
    obtain ⟨beat', s', hrun', hopen', hb', hgrown'⟩ := hrun.resumes hopen (hb.advance rfl)
      (Nat.le_add_right _ _) hplace (ne_nil_of_concat hgrown)
    rw [hgrown, hasked, List.append_assoc] at hgrown'
    have htrying' : Trying setup.options results job.delivery job.handle job.context (k + 1)
        (dispatch (acts t (beat' :: beat :: history))) := by
      rw [hgrown']
      exact htrying.again clock
    obtain ⟨grown, hcan, hinitial, hdone⟩ :=
      ih hrun' hopen' hb' htrying' (Job.made_tried hmade) (by omega)
    rw [hgrown'] at hinitial
    exact ⟨grown, hcan.of_cons.of_cons, (List.prefix_append _ _).trans hinitial, hdone⟩

/-- While a delivery is tried it is not settled. -/
theorem Trying.not_settles (h : Trying o results d handle context k course) :
    ∀ act ∈ course, ¬act.Settles := by
  induction h with
  | taken now => simp [Act.Settles]
  | again now _ ih =>
    intro act hact
    rcases List.mem_append.mp hact with hact | hact
    · exact ih act hact
    · rcases List.mem_cons.mp hact with rfl | hact
      · simp [Act.Settles]
      · obtain rfl := List.mem_singleton.mp hact
        simp [Act.Settles]

theorem Dispatched.exists_trying {n : Nat} {result : Except BrokerError Unit}
    (h : Dispatched o results d handle context n result course) :
    ∃ earlier, Trying o results d handle context n earlier ∧ earlier <+: course := by
  cases h with
  | settled now later result asked htrying _ => exact ⟨_, htrying, List.prefix_append _ _⟩

/-- A delivery whose dispatch is over was settled. -/
theorem Dispatched.exists_settles {n : Nat} {result : Except BrokerError Unit}
    (h : Dispatched o results d handle context n result course) : ∃ act ∈ course, act.Settles := by
  cases h with
  | settled now later result asked _ _ =>
    exact ⟨_, List.mem_append_right _ List.mem_cons_self, _, _, _, List.mem_cons_self⟩

/-- If some try is the last one, a dispatch is over after it, or can come to its end. -/
theorem TimedRun.ends_with_last {taken : Instant} {n : Nat}
    (h : TimedRun setup clock history s) (hopen : s.isClosed = false)
    (hplace : setup.redelivery = .inPlace)
    (hfits : ∀ most, setup.options.limit = .limited most → most ≤ maxAttempts)
    (hat : s.IsAt t stage)
    (hfirst : (dispatch (acts t history)).head?
      = some ⟨taken, .read (.ok (some (d, handle))), [.handle context d]⟩)
    (hstage : stage.Dispatches setup.options results clock (dispatch (acts t history)))
    (hlast : setup.options.IsLast results n) :
    IsOver setup.options results d handle context n (dispatch (acts t history)) ∨
      ∀ result, ∃ grown, CanGrow setup history t grown ∧ dispatch (acts t history) <+: grown ∧
        Dispatched setup.options results d handle context n result grown := by
  -- the tries so far were not final, so there are no more of them than up to the last one
  have hle : ∀ {k}, (∀ i < k, ¬setup.options.IsFinal results i) → k ≤ n := fun hearlier =>
    Nat.le_of_not_lt fun hlt => hearlier n hlt hlast.1
  have hturn := h.run.orderly.turn t stage hat
  cases stage with
  | handling job =>
    obtain ⟨k, htrying, hmade, hearlier⟩ := hstage
    obtain ⟨rfl, rfl, rfl⟩ := htrying.same (List.prefix_refl _) hfirst
    exact .inr (h.completes hopen hplace hfits ⟨hturn rfl, hat⟩ htrying hmade hlast
      (Nat.add_sub_of_le (hle hearlier)))
  | waiting job wake =>
    obtain ⟨k, before, now, htrying, hacts, rfl, hclock, hmade, hearlier⟩ := hstage
    obtain ⟨rfl, rfl, rfl⟩ := htrying.same (hacts ▸ List.prefix_append _ _) hfirst
    obtain ⟨beat, s', hrun, hopen', hb, hgrown⟩ :=
      h.resumes hopen ⟨hturn rfl, hat⟩ hclock hplace (ne_nil_of_concat hacts)
    have htrying' : Trying setup.options results job.delivery job.handle job.context (k + 1)
        (dispatch (acts t (beat :: history))) := by
      rw [hgrown, hacts, List.append_assoc]
      exact htrying.again now
    refine .inr fun result => ?_
    obtain ⟨grown, hcan, hinitial, hdone⟩ :=
      hrun.completes hopen' hplace hfits hb htrying' hmade hlast
      (Nat.add_sub_of_le (hle hearlier)) result
    rw [hgrown] at hinitial
    exact ⟨grown, hcan.of_cons, (List.prefix_append _ _).trans hinitial, hdone⟩
  | settling job x =>
    obtain ⟨n', before, now, htrying, hacts, rfl, hlast'⟩ := hstage
    obtain ⟨rfl, rfl, rfl⟩ := htrying.same (hacts ▸ List.prefix_append _ _) hfirst
    obtain rfl := hlast.unique hlast'
    refine .inr fun result => ?_
    obtain ⟨asked, hcan, hnext⟩ := h.settles hopen ⟨hturn rfl, hat⟩ (settlementOf_eq _)
      (ne_nil_of_concat hacts) result
    refine ⟨_, hcan, List.prefix_append _ _, ?_⟩
    rw [hacts, List.append_assoc]
    exact .settled now clock result asked htrying hnext
  | _ =>
    rcases hstage with hnil | ⟨d', handle', context', n', hover, hlast'⟩
    · rw [hnil] at hfirst
      cases hfirst
    · obtain rfl := hlast.unique hlast'
      obtain ⟨result, whole, rest, hdone, hacts, hrest⟩ := hover
      obtain ⟨earlier, htrying, hinitial⟩ := hdone.exists_trying
      obtain ⟨rfl, rfl, rfl⟩ := htrying.same (hinitial.trans (hacts ▸ List.prefix_append _ _)) hfirst
      exact .inl ⟨result, whole, rest, hdone, hacts, hrest⟩

/-- If no try is the last one, a delivery is tried again and again. -/
theorem Stage.Dispatches.exists_trying {taken : Instant}
    (h : stage.Dispatches o results clock course)
    (hfirst : course.head? = some ⟨taken, .read (.ok (some (d, handle))), [.handle context d]⟩)
    (hnone : ∀ k, ¬o.IsFinal results k) :
    ∃ k whole, Trying o results d handle context k whole ∧ course <+: whole := by
  cases stage with
  | handling job =>
    obtain ⟨k, htrying, _⟩ := h
    obtain ⟨rfl, rfl, rfl⟩ := htrying.same (List.prefix_refl _) hfirst
    exact ⟨k, course, htrying, List.prefix_refl _⟩
  | waiting job wake =>
    obtain ⟨k, before, now, htrying, rfl, _⟩ := h
    obtain ⟨rfl, rfl, rfl⟩ := htrying.same (List.prefix_append _ _) hfirst
    refine ⟨k + 1, _, htrying.again now, ?_⟩
    exact (List.prefix_append_right_inj before).mpr (List.prefix_append [_] [_])
  | settling job x =>
    obtain ⟨n, _, _, _, _, _, hlast⟩ := h
    exact absurd hlast.1 (hnone n)
  | _ =>
    rcases h with rfl | ⟨_, _, _, n, _, hlast⟩
    · cases hfirst
    · exact absurd hlast.1 (hnone n)

/-- The delivery with which a dispatch begins is handed to the handler at once, in some context. -/
theorem Stage.Dispatches.exists_context {taken : Instant} {asked : List (Request η)}
    (h : stage.Dispatches o results clock course)
    (hfirst : course.head? = some ⟨taken, .read (.ok (some (d, handle))), asked⟩) :
    ∃ context, asked = [.handle context d] := by
  have hsame : ∀ {d' : Delivery} {handle' : η} {context k} {earlier : List (Act η)},
      Trying o results d' handle' context k earlier → earlier <+: course →
      ∃ context, asked = [.handle context d] := by
    intro d' handle' context k earlier htrying hinitial
    obtain ⟨now, hhead⟩ := htrying.head? hinitial
    rw [hfirst] at hhead
    cases hhead
    exact ⟨context, rfl⟩
  cases stage with
  | handling job =>
    obtain ⟨k, htrying, _⟩ := h
    exact hsame htrying (List.prefix_refl _)
  | waiting job wake =>
    obtain ⟨k, before, now, htrying, rfl, _⟩ := h
    exact hsame htrying (List.prefix_append _ _)
  | settling job x =>
    obtain ⟨n, before, now, htrying, rfl, _⟩ := h
    exact hsame htrying (List.prefix_append _ _)
  | _ =>
    rcases h with rfl | ⟨_, _, _, n, ⟨result, whole, rest, hdone, rfl, _⟩, _⟩
    · cases hfirst
    · obtain ⟨earlier, htrying, hinitial⟩ := hdone.exists_trying
      exact hsame htrying (hinitial.trans (List.prefix_append _ _))

/-- Whatever the handler answers to the tries of a delivery, one after the other, and whatever the
headers of the delivery say, as long as the end is not signalled: all tries are made in one context.
If some try is the last one, what comes to the call from the delivery on is the course up to that
try, then one settlement, and then the next delivery is awaited; until then the dispatch can come to
its end in each way in which the settlement can. If no try is the last one, the delivery is not
settled. Some try is the last one if there is a limit. -/
theorem dispatch_of_run (h : TimedRun setup clock history s) (hopen : s.isClosed = false)
    (hplace : setup.redelivery = .inPlace)
    (hfits : ∀ most, setup.options.limit = .limited most → most ≤ maxAttempts)
    {taken : Instant} {asked : List (Request η)}
    (hfirst : (dispatch (acts t history)).head?
      = some ⟨taken, .read (.ok (some (d, handle))), asked⟩)
    (hf : Follows results (dispatch (acts t history))) : ∃ context, asked = [.handle context d] ∧
    (∀ n, setup.options.IsLast results n →
      IsOver setup.options results d handle context n (dispatch (acts t history)) ∨
      ∀ result, ∃ grown, CanGrow setup history t grown ∧ dispatch (acts t history) <+: grown ∧
        Dispatched setup.options results d handle context n result grown) ∧
    ((∀ k, ¬setup.options.IsFinal results k) →
      (∃ k course, Trying setup.options results d handle context k course ∧
        dispatch (acts t history) <+: course) ∧
      ∀ act ∈ dispatch (acts t history), ¬act.Settles) ∧
    ∀ most, setup.options.limit = .limited most → 0 < most →
      ∃ n < most, setup.options.IsLast results n := by
  have hne : acts t history ≠ [] := by
    intro hnil
    rw [hnil] at hfirst
    cases hfirst
  obtain ⟨stage, hat⟩ := h.run.exists_stage hne
  have hstage := h.dispatches hopen hplace hfits hat hf
  obtain ⟨context, rfl⟩ := hstage.exists_context hfirst
  refine ⟨context, rfl, fun n hlast => ?_, fun hnone => ?_, fun most hlimit hpos =>
    Options.exists_isLast hlimit hpos⟩
  · exact h.ends_with_last hopen hplace hfits hat hfirst hstage hlast
  · obtain ⟨k, whole, htrying, hinitial⟩ := hstage.exists_trying hfirst hnone
    exact ⟨⟨k, whole, htrying, hinitial⟩,
      fun act hact => htrying.not_settles act (hinitial.subset hact)⟩

/-- An order that says that it was tried before is tried again after a second. -/
def orderTriedBefore : List (Act Nat) :=
  [⟨0, .read (.ok (some (order.recordAttempts 2, 7))), [.handle .none (order.recordAttempts 2)]⟩,
    ⟨0, .handled (.error (.retry (.text "busy"))), [.sleep (Duration.ofSeconds 1)]⟩,
    ⟨1000000000, .elapsed, [.handle .none (order.recordAttempts 2)]⟩]

/-- The second try of an order is the last one if it succeeds, and then the order is settled. -/
theorem dispatch_for_busyOnce :
    ∃ history s, TimedRun (Setup.ofOrders .inPlace) 1000000000 history s ∧
      dispatch (acts 0 history) = orderTriedBefore ∧
      (Setup.ofOrders .inPlace).options.IsLast busyOnce 1 ∧
      ∀ result, ∃ grown, CanGrow (Setup.ofOrders .inPlace) history 0 grown ∧
        orderTriedBefore <+: grown ∧ Dispatched (Setup.ofOrders .inPlace).options busyOnce
          (order.recordAttempts 2) 7 .none 1 result grown := by
  have hfailed : TimedRun (η := Nat) (Setup.ofOrders .inPlace) 0 _ _ :=
    ((((TimedRun.new.step .listen rfl).step (.input 0 .turn) rfl).step
      (.input 0 (.opened (.ok ()))) rfl).step
      (.input 0 (.read (.ok (some (order.recordAttempts 2, 7))))) rfl).step
      (.input 0 (.handled (.error (.retry (.text "busy"))))) rfl
  have htried : TimedRun (Setup.ofOrders .inPlace) 1000000000 _ _ :=
    (hfailed.wait (by decide) fun now _ hlt => rests_of_waiting
      (show IsBusyAt _ 0 (.waiting ⟨order.recordAttempts 2, 7, 1, 1, .none⟩ 1000000000) from ⟨rfl, rfl⟩)
      rfl hlt).step (.input 0 .elapsed) rfl
  have hlast : (Setup.ofOrders .inPlace).options.IsLast busyOnce 1 := by
    refine ⟨.inl rfl, fun k hk => ?_⟩
    obtain rfl : k = 0 := Nat.lt_one_iff.mp hk
    rintro (h | ⟨_, ⟨⟩, h⟩ | ⟨_, ⟨⟩, h⟩ | h)
    · cases h
    · cases h
    · exact absurd h (by decide)
    · cases h
  have hfits : ∀ most, Options.standard.limit = .limited most → most ≤ maxAttempts := by
    rintro _ ⟨⟩
    decide
  have hfollows : Follows busyOnce orderTriedBefore := by
    intro k result hk
    cases k with
    | zero =>
      cases hk
      rfl
    | succ k => cases hk
  refine ⟨_, _, htried, rfl, hlast, ?_⟩
  obtain ⟨context, hcontext, hends, -⟩ :=
    dispatch_of_run (t := 0) htried rfl rfl hfits rfl hfollows
  cases hcontext
  refine (hends 1 hlast).resolve_left ?_
  · -- the order was not settled yet
    rintro ⟨result, whole, rest, hdone, hacts, _⟩
    obtain ⟨act, hact, hsettles⟩ := hdone.exists_settles
    have hnone : ∀ act ∈ orderTriedBefore, ¬act.Settles := by
      simp [orderTriedBefore, Act.Settles]
    refine hnone act ?_ hsettles
    rw [show orderTriedBefore = whole ++ rest from hacts]
    exact List.mem_append_left rest hact

end Courier.Subscriber
