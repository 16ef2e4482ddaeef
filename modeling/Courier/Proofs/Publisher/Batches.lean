import Courier.Proofs.Publisher.Cache
import Courier.Proofs.Publisher.Envelope
import Courier.Proofs.Total

/-!
# Batches

A batch is sent message by message, in order, and stops at the first failure. What a call does is
read off the history of the publisher as its `trace`: the envelopes that it made, what it asked the
transport for, what the transport answered, and what it returned. `Sends`, `Fails` and `Stands` say
what the trace of a batch looks like, from the batch alone; in every run it looks like that, and left
to itself the publisher comes to the end of each batch (`batch_of_run`).
-/

namespace Courier.Publisher

/-! ## §1 The trace of a call -/

/-- An entry of the trace of a call. -/
inductive Entry where
  /-- An envelope was made of a message, or not. -/
  | prepared (result : Except BrokerError Envelope)
  | asked (request : Request)
  /-- The transport has answered. -/
  | answered (result : Except BrokerError Unit)
  | returned (result : Except BrokerError Unit)

/-- What an event is to a call. -/
def Event.entry? (t : Nat) : Event → Option Entry
  | .prepared u result => if u = t then some (.prepared result) else none
  | .asked u r => if u = t then some (.asked r) else none
  | .returned u result => if u = t then some (.returned result) else none
  | .logged _ => none

def Label.entry? (t : Nat) : Label → Option Entry
  | .answer u result => if u = t then some (.answered result) else none
  | .publish _ | .close | .proceed _ _ => none

/-- What a step is to a call. -/
def Beat.entries (t : Nat) (beat : Beat) : List Entry :=
  (beat.label.entry? t).toList ++ beat.events.filterMap (Event.entry? t)

/-- What a call has done in a history, in the order of time. -/
def trace (t : Nat) : List Beat → List Entry
  | [] => []
  | beat :: earlier => trace t earlier ++ beat.entries t

/-- The envelopes that the transport has taken, in order. -/
def accepted : List Entry → List Envelope
  | .asked (.send _ e) :: .answered (.ok ()) :: rest => e :: accepted rest
  | _ :: rest => accepted rest
  | [] => []

/-! ## §2 What a batch does -/

/-- How a handle is found for an envelope: there is one in the cache, or one is opened. -/
inductive Finds (e : Envelope) : List Entry → Prop where
  | cached : Finds e []
  | opened : Finds e [.asked (.openHandle e.destination), .answered (.ok ())]

/-- The trace of messages that were sent one after the other, and their envelopes: each is made of
its message and given to a handle, and the transport takes it. -/
inductive Sends (setup : Setup) (context : Trace.Context) :
    List Message → List Envelope → List Entry → Prop where
  | nil : Sends setup context [] [] []
  | cons {messages : List Message} {envelopes : List Envelope} {shown found : List Entry}
      (m : Message) (e : Envelope) (number handle : Nat) :
      Wraps setup context number m e → Finds e found →
      Sends setup context messages envelopes shown →
      Sends setup context (messages ++ [m]) (envelopes ++ [e])
        (shown ++ .prepared (.ok e) :: found ++ [.asked (.send handle e), .answered (.ok ())])

/-- The trace of a message that was not sent because of an error: its body could not be encoded, or no
handle could be opened, or the transport did not take the envelope. -/
inductive Fails (setup : Setup) (context : Trace.Context) (m : Message) (error : BrokerError) :
    List Entry → Prop where
  | unencoded (body : Json) : m.body = some body → setup.encoding.encode body = .error error →
      Fails setup context m error [.prepared (.error error)]
  | unopened (e : Envelope) (number : Nat) : Wraps setup context number m e →
      Fails setup context m error
        [.prepared (.ok e), .asked (.openHandle e.destination), .answered (.error error)]
  | unsent {found : List Entry} (e : Envelope) (number handle : Nat) :
      Wraps setup context number m e → Finds e found →
      Fails setup context m error
        (.prepared (.ok e) :: found ++ [.asked (.send handle e), .answered (.error error)])

/-- Where a batch stands with the messages that were not sent yet, and its trace since the last one
that was. -/
inductive Stands (setup : Setup) (context : Trace.Context) :
    List Message → List Entry → Stage → Prop where
  /-- All messages were sent. -/
  | done : Stands setup context [] [.returned (.ok ())] (.returned (.ok ()))
  /-- A message was not sent, and neither are those after it. -/
  | failed {shown : List Entry} (m : Message) (rest : List Message) (error : BrokerError) :
      Fails setup context m error shown →
      Stands setup context (m :: rest) (shown ++ [.returned (.error error)])
        (.returned (.error error))
  | seeking (m : Message) (rest : List Message) (e : Envelope) (number : Nat) :
      Wraps setup context number m e →
      Stands setup context (m :: rest) [.prepared (.ok e)] (.seeking e ⟨context, rest⟩)
  | opening (m : Message) (rest : List Message) (e : Envelope) (number : Nat) :
      Wraps setup context number m e →
      Stands setup context (m :: rest) [.prepared (.ok e), .asked (.openHandle e.destination)]
        (.opening e ⟨context, rest⟩)
  | sending {found : List Entry} (m : Message) (rest : List Message) (e : Envelope)
      (number handle : Nat) : Wraps setup context number m e → Finds e found →
      Stands setup context (m :: rest) (.prepared (.ok e) :: found ++ [.asked (.send handle e)])
        (.sending handle e ⟨context, rest⟩)

/-! ## §3 Turns of a batch -/

/-- How a batch goes on with its next message: what it shows, and where it comes to. -/
inductive Setup.Continues (setup : Setup) (batch : Batch) : List Entry → Stage → Prop where
  | done : batch.messages = [] → Continues setup batch [.returned (.ok ())] (.returned (.ok ()))
  | unencoded (m : Message) (rest : List Message) (number : Nat) (error : BrokerError) :
      batch.messages = m :: rest → setup.envelope batch.context number m = .error error →
      Continues setup batch [.prepared (.error error), .returned (.error error)]
        (.returned (.error error))
  | seek (m : Message) (rest : List Message) (number : Nat) (e : Envelope) :
      batch.messages = m :: rest → setup.envelope batch.context number m = .ok e →
      Continues setup batch [.prepared (.ok e)] (.seeking e ⟨batch.context, rest⟩)

/-- What a batch at a stage can do: what it shows, and where it comes to. -/
inductive Setup.Works (setup : Setup) : Stage → List Entry → Stage → Prop where
  | use (e : Envelope) (rest : Batch) (handle : Nat) :
      Works setup (.seeking e rest) [.asked (.send handle e)] (.sending handle e rest)
  | reopen (e : Envelope) (rest : Batch) :
      Works setup (.seeking e rest) [.asked (.openHandle e.destination)] (.opening e rest)
  | opened (e : Envelope) (rest : Batch) (handle : Nat) :
      Works setup (.opening e rest) [.answered (.ok ()), .asked (.send handle e)]
        (.sending handle e rest)
  | unopened (e : Envelope) (rest : Batch) (error : BrokerError) :
      Works setup (.opening e rest) [.answered (.error error), .returned (.error error)]
        (.returned (.error error))
  | sent {shown : List Entry} {next : Stage} (handle : Nat) (e : Envelope) (rest : Batch) :
      setup.Continues rest shown next →
      Works setup (.sending handle e rest) (.answered (.ok ()) :: shown) next
  | unsent (handle : Nat) (e : Envelope) (rest : Batch) (error : BrokerError) :
      Works setup (.sending handle e rest) [.answered (.error error), .returned (.error error)]
        (.returned (.error error))

variable {setup : Setup} {p p' : Publisher} {label : Label} {history : List Beat} {t : Nat}
  {stage next : Stage} {events : List Event}

private theorem next_continues (setup : Setup) (q : Publisher) (t : Nat) (batch : Batch) :
    ∃ next, setup.Continues batch ((q.next setup t batch).2.filterMap (Event.entry? t)) next ∧
      (q.next setup t batch).1.tasks = q.tasks.set t next := by
  unfold Publisher.next
  split
  · rename_i hnil
    refine ⟨_, ?_, rfl⟩
    simpa [finish, Event.entry?] using Setup.Continues.done hnil
  · rename_i m rest hcons
    cases henvelope : setup.envelope batch.context q.prepared m with
    | error e =>
      refine ⟨_, ?_, rfl⟩
      simpa [finish, Event.entry?] using Setup.Continues.unencoded m rest _ e hcons henvelope
    | ok e =>
      refine ⟨_, ?_, rfl⟩
      simpa [Event.entry?] using Setup.Continues.seek m rest _ e hcons henvelope

/-- The call that takes a step. -/
def Label.caller (p : Publisher) : Label → Nat
  | .publish _ | .close => p.tasks.length
  | .proceed t _ | .answer t _ => t

private theorem next_silent {u : Nat} (q : Publisher) (batch : Batch) (hne : u ≠ t) :
    (q.next setup t batch).2.filterMap (Event.entry? u) = [] := by
  unfold Publisher.next
  split
  · simp [finish, Event.entry?, Ne.symm hne]
  · cases setup.envelope batch.context q.prepared _ <;>
      simp [finish, Event.entry?, Ne.symm hne]

private theorem closeNext_silent {u : Nat} (q : Publisher) (handles : List (String × Nat))
    (hne : u ≠ t) : (q.closeNext t handles).2.filterMap (Event.entry? u) = [] := by
  unfold closeNext
  split <;> simp [finish, Event.entry?, Ne.symm hne]

private theorem proceed_silent {u : Nat} {isClosed : Bool} {effect : Effect} (hne : u ≠ t)
    (h : p.proceed t isClosed = some effect) : effect.2.filterMap (Event.entry? u) = [] := by
  unfold proceed at h
  split at h
  · split at h
    · cases isClosed <;> cases h <;> simp [send, Event.entry?, Ne.symm hne]
    · cases h
      simp [Event.entry?, Ne.symm hne]
  · cases h
    exact closeNext_silent _ _ hne
  · cases h

private theorem answered_silent {u : Nat} {result : Except BrokerError Unit} {effect : Effect}
    (hne : u ≠ t) (h : p.answered setup t result = some effect) :
    effect.2.filterMap (Event.entry? u) = [] := by
  unfold answered at h
  split at h
  · cases h
    simp [send, Event.entry?, Ne.symm hne]
  · cases h
    simp [finish, Event.entry?, Ne.symm hne]
  · cases h
    exact next_silent _ _ hne
  · cases h
    simp [Event.entry?, Ne.symm hne]
  · cases h
    exact closeNext_silent _ _ hne
  · cases h
    exact (List.filterMap_cons_none rfl).trans (closeNext_silent _ _ hne)
  · cases h

/-- A step shows nothing to any other call. -/
theorem entries_of_ne {effect : Effect} (h : p.step setup label = some effect)
    (hne : t ≠ label.caller p) : Beat.entries t ⟨p, label, effect.2⟩ = [] := by
  have hlabel : label.entry? t = none := by
    cases label with
    | answer u result => exact if_neg (Ne.symm hne)
    | _ => rfl
  have hevents : effect.2.filterMap (Event.entry? t) = [] := by
    cases label with
    | publish batch =>
      have hother : p.tasks.length ≠ t := Ne.symm hne
      simp only [step, Option.some.injEq] at h
      subst h
      split
      · simp [finish, Event.entry?, hother]
      · exact next_silent _ _ hne
    | close =>
      have hother : p.tasks.length ≠ t := Ne.symm hne
      simp only [step, Option.some.injEq] at h
      subst h
      split
      · simp [finish, Event.entry?, hother]
      · rfl
    | proceed u isClosed =>
      simp only [step] at h
      split at h
      · exact proceed_silent hne h
      · cases h
    | answer u result => exact answered_silent hne h
  simp only [Beat.entries, hlabel, hevents, Option.toList_none, List.append_nil]

/-- Every step of a batch is one of its turns. -/
theorem works_of_step {effect : Effect} (h : p.step setup label = some effect)
    (ht : t = label.caller p) (hstage : p.tasks[t]? = some stage) (hbatch : stage.closes = false) :
    ∃ next, effect.1.tasks[t]? = some next ∧
      setup.Works stage (Beat.entries t ⟨p, label, effect.2⟩) next := by
  have hset : ∀ next, (p.tasks.set t next)[t]? = some next := fun next => (puts_set next hstage).here
  cases label with
  | publish | close =>
    subst ht
    rw [Label.caller, List.getElem?_eq_none (Nat.le_refl _)] at hstage
    cases hstage
  | proceed u isClosed =>
    obtain rfl : t = u := ht
    simp only [step] at h
    split at h
    · cases stage with
      | seeking e rest =>
        have hreopen : setup.Works (.seeking e rest) (Beat.entries t ⟨p, .proceed t isClosed,
            [.asked t (.openHandle e.destination)]⟩) (.opening e rest) := by
          simpa [Beat.entries, Label.entry?, Event.entry?] using Setup.Works.reopen e rest
        simp only [proceed, hstage] at h
        split at h
        · rename_i handle _
          cases isClosed with
          | true =>
            cases h
            exact ⟨_, hset _, hreopen⟩
          | false =>
            cases h
            refine ⟨_, hset _, ?_⟩
            simpa [send, Beat.entries, Label.entry?, Event.entry?] using
              Setup.Works.use e rest handle
        · cases h
          exact ⟨_, hset _, hreopen⟩
      | draining => cases hbatch
      | opening | sending | closing | returned =>
        simp only [proceed, hstage] at h
        cases h
    · cases h
  | answer u result =>
    obtain rfl : t = u := ht
    cases stage with
    | opening e rest =>
      cases result with
      | ok _ =>
        simp only [step, answered, hstage] at h
        cases h
        refine ⟨_, hset _, ?_⟩
        simpa [send, Beat.entries, Label.entry?, Event.entry?] using
          Setup.Works.opened e rest p.opened
      | error error =>
        simp only [step, answered, hstage] at h
        cases h
        refine ⟨_, hset _, ?_⟩
        simpa [finish, Beat.entries, Label.entry?, Event.entry?] using
          Setup.Works.unopened e rest error
    | sending handle e rest =>
      cases result with
      | ok _ =>
        simp only [step, answered, hstage] at h
        cases h
        obtain ⟨next, hcontinues, htasks⟩ := next_continues setup p t rest
        refine ⟨next, htasks ▸ hset next, ?_⟩
        simpa [Beat.entries, Label.entry?] using Setup.Works.sent handle e rest hcontinues
      | error error =>
        simp only [step, answered, hstage] at h
        cases h
        refine ⟨_, hset _, ?_⟩
        simpa [finish, Beat.entries, Label.entry?, Event.entry?, List.filterMap_cons] using
          Setup.Works.unsent handle e rest error
    | closing => cases hbatch
    | seeking | draining | returned =>
      simp only [step, answered, hstage] at h
      cases h

/-- A batch that is published on an open publisher goes on with its first message. -/
theorem continues_of_step {batch : Batch} {effect : Effect}
    (h : p.step setup (.publish batch) = some effect) (hopen : p.closed = false) :
    ∃ next, effect.1.tasks[p.tasks.length]? = some next ∧ setup.Continues batch
      (Beat.entries p.tasks.length ⟨p, .publish batch, effect.2⟩) next := by
  obtain ⟨next, hcontinues, htasks⟩ := next_continues setup p.enlist p.tasks.length batch
  obtain rfl : p.enlist.next setup p.tasks.length batch = effect := by
    simp only [step, Option.some.injEq] at h
    rw [← h]
    exact (if_neg (by rw [hopen]; exact Bool.false_ne_true)).symm
  refine ⟨next, ?_, hcontinues⟩
  rw [htasks]
  exact (puts_enlist p.tasks .draining next).here

/-! ## §4 Runs -/

variable {context : Trace.Context} {messages rest : List Message} {envelopes : List Envelope}
  {shown tail : List Entry} {batch : Batch}

/-- The envelopes of the messages that were sent are those that the transport has taken. -/
theorem Sends.accepted (h : Sends setup context messages envelopes shown) (tail : List Entry) :
    accepted (shown ++ tail) = envelopes ++ accepted tail := by
  induction h generalizing tail with
  | nil => rfl
  | cons m e number handle _ hfinds _ ih =>
    simp only [List.append_assoc, ih, List.cons_append, List.nil_append]
    cases hfinds <;> rfl

theorem Fails.accepted {m : Message} {error : BrokerError} (h : Fails setup context m error shown) :
    accepted (shown ++ [.returned (.error error)]) = [] := by
  cases h with
  | unencoded | unopened => rfl
  | unsent _ _ _ _ hfinds => cases hfinds <;> rfl

/-- Nothing of what was not sent was taken by the transport. -/
theorem Stands.accepted (h : Stands setup context rest tail stage) : accepted tail = [] := by
  cases h with
  | done | seeking | opening => rfl
  | failed _ _ _ hfails => exact hfails.accepted
  | sending _ _ _ _ _ _ hfinds => cases hfinds <;> rfl

theorem Setup.Continues.stands (h : setup.Continues ⟨context, rest⟩ shown next) :
    Stands setup context rest shown next := by
  cases h with
  | done hnil =>
    obtain rfl : rest = [] := hnil
    exact .done
  | unencoded m later number error hcons henvelope =>
    obtain rfl : rest = m :: later := hcons
    obtain ⟨body, hbody, hencode⟩ := envelope_eq_error_iff.mp henvelope
    exact .failed m later error (.unencoded body hbody hencode)
  | seek m later number e hcons henvelope =>
    obtain rfl : rest = m :: later := hcons
    exact .seeking m later e number (envelope_eq_ok_iff.mp henvelope)

/-- What a batch has done: a part of the messages was sent, and then it stands with the others. -/
def Proceeds (setup : Setup) (batch : Batch) (done : List Entry) (stage : Stage) : Prop :=
  ∃ sent rest envelopes shown tail, batch.messages = sent ++ rest ∧
    Sends setup batch.context sent envelopes shown ∧
    Stands setup batch.context rest tail stage ∧ done = shown ++ tail

/-- Every turn of a batch takes it further. -/
theorem Proceeds.works {done : List Entry} (h : Proceeds setup batch done stage)
    (hworks : setup.Works stage shown next) : Proceeds setup batch (done ++ shown) next := by
  obtain ⟨sent, rest, envelopes, before, tail, hmessages, hsends, hstands, rfl⟩ := h
  -- it stands with the same messages, unless one was sent
  suffices Stands setup batch.context rest (tail ++ shown) next ∨
      ∃ m later e after, rest = m :: later ∧
        Sends setup batch.context (sent ++ [m]) (envelopes ++ [e])
          (before ++ tail ++ [.answered (.ok ())]) ∧
        shown = .answered (.ok ()) :: after ∧ Stands setup batch.context later after next by
    rcases this with hstands | ⟨m, later, e, after, rfl, hsends', rfl, hstands'⟩
    · exact ⟨sent, rest, envelopes, before, _, hmessages, hsends, hstands,
        List.append_assoc _ _ _⟩
    · refine ⟨_, later, _, _, after, ?_, hsends', hstands', ?_⟩
      · rw [hmessages, List.append_assoc]
        rfl
      · simp
  cases hstands with
  | done | failed => cases hworks
  | seeking m rest e number henvelope =>
    cases hworks with
    | use _ _ handle => exact .inl (.sending m rest e number handle henvelope .cached)
    | reopen => exact .inl (.opening m rest e number henvelope)
  | opening m rest e number henvelope =>
    cases hworks with
    | opened _ _ handle => exact .inl (.sending m rest e number handle henvelope .opened)
    | unopened _ _ error => exact .inl (.failed m rest error (.unopened e number henvelope))
  | sending m rest e number handle henvelope hfinds =>
    cases hworks with
    | sent _ _ _ hcontinues =>
      refine .inr ⟨m, rest, e, _, rfl, ?_, rfl, hcontinues.stands⟩
      have hsends' := hsends.cons m e number handle henvelope hfinds
      simpa using hsends'
    | unsent _ _ _ error =>
      have hfails : Fails setup batch.context m error _ :=
        .unsent e number handle henvelope hfinds
      have hstands := Stands.failed m rest error hfails
      simp only [List.append_assoc, List.cons_append, List.nil_append] at hstands ⊢
      exact .inl hstands

theorem Stands.closes (h : Stands setup context rest tail stage) : stage.closes = false := by
  cases h <;> rfl

theorem Move.caller_eq {asked : List Request} {u : Nat} (h : Move setup p label u next asked p') :
    u = label.caller p := by
  cases h <;> rfl

/-- A call that was not made yet has done nothing. -/
theorem Run.trace_eq_nil (h : Run setup .new history p) (ht : p.tasks[t]? = none) :
    trace t history = [] := by
  induction h with
  | refl => rfl
  | step label hrun hstep ih =>
    obtain ⟨u, next, asked, hm, _⟩ := moves_of_step hstep
    have hne : t ≠ u := by
      rintro rfl
      rw [hm.puts.here] at ht
      cases ht
    rw [trace, entries_of_ne hstep (hm.caller_eq ▸ hne), List.append_nil]
    exact ih ((hm.puts.others t hne).symm.trans ht)

/-- Whether a call has begun to publish a batch on a publisher that was open. -/
def Began (history : List Beat) (t : Nat) (batch : Batch) : Prop :=
  ∃ beat ∈ history, beat.label = .publish batch ∧ beat.before.closed = false ∧
    beat.before.tasks.length = t

/-- In every run a batch has sent a part of its messages and stands with the others. -/
theorem Run.proceeds (h : Run setup .new history p) (hbegan : Began history t batch) :
    ∃ stage, p.tasks[t]? = some stage ∧ Proceeds setup batch (trace t history) stage := by
  induction h with
  | refl =>
    obtain ⟨_, hbeat, _⟩ := hbegan
    cases hbeat
  | step label hrun hstep ih =>
    obtain ⟨beat, hbeat, hlabel, hopen, hlength⟩ := hbegan
    rcases List.mem_cons.mp hbeat with rfl | hbeat
    · obtain rfl : label = .publish batch := hlabel
      subst hlength
      obtain ⟨next, hstage, hcontinues⟩ := continues_of_step hstep hopen
      refine ⟨next, hstage, [], batch.messages, [], [], _, rfl, .nil, hcontinues.stands, ?_⟩
      rw [trace, hrun.trace_eq_nil (List.getElem?_eq_none (Nat.le_refl _)), List.nil_append]
    · obtain ⟨stage, hstage, hproceeds⟩ := ih ⟨beat, hbeat, hlabel, hopen, hlength⟩
      obtain ⟨u, next, asked, hm, _⟩ := moves_of_step hstep
      by_cases hcaller : t = u
      · subst hcaller
        have hbatch : stage.closes = false := by
          obtain ⟨_, _, _, _, _, _, _, hstands, _⟩ := hproceeds
          exact hstands.closes
        obtain ⟨next, hnext, hworks⟩ := works_of_step hstep hm.caller_eq hstage hbatch
        exact ⟨next, hnext, hproceeds.works hworks⟩
      · refine ⟨stage, (hm.puts.others t hcaller).trans hstage, ?_⟩
        rw [trace, entries_of_ne hstep (hm.caller_eq ▸ hcaller), List.append_nil]
        exact hproceeds

/-! ## §5 Publishers that are left to themselves -/

/-- Whether a label stands for a step of a call that was made before. -/
def Label.isOwn : Label → Bool
  | .proceed _ _ | .answer _ _ => true
  | .publish _ | .close => false

/-- Whether a call can go on, whatever the handle that it finds says of itself, or whatever the
transport answers. -/
def MayGoOn (setup : Setup) (p : Publisher) (t : Nat) : Prop :=
  (∀ isClosed, (p.step setup (.proceed t isClosed)).isSome = true) ∨
    ∀ result, (p.step setup (.answer t result)).isSome = true

/-- Left to itself, a publisher comes to where `P` holds, whichever of its calls go on and whatever
the transport answers: as long as it is not there, some call can go on, and it gets there in the
end. -/
inductive ComesTo (setup : Setup) (P : Publisher → Prop) : Publisher → Prop where
  | here {p : Publisher} : P p → ComesTo setup P p
  | step {p : Publisher} : (∃ t, MayGoOn setup p t) →
      (∀ label p' events, label.isOwn = true → p.step setup label = some (p', events) →
        ComesTo setup P p') → ComesTo setup P p

/-- How many steps a batch has yet to take at most. -/
def Stage.toGo : Stage → Nat
  | .seeking _ rest => 4 * rest.messages.length + 3
  | .opening _ rest => 4 * rest.messages.length + 2
  | .sending _ _ rest => 4 * rest.messages.length + 1
  | .draining | .closing _ _ _ | .returned _ => 0

def toGo (p : Publisher) : Nat := total Stage.toGo p.tasks

theorem Setup.GoesOn.toGo_lt {handle : Nat} {e : Envelope} (h : setup.GoesOn batch next) :
    next.toGo < (Stage.sending handle e batch).toGo := by
  cases h with
  | done | unencoded => exact Nat.succ_pos _
  | seek m rest body envelope hcons _ =>
    simp only [Stage.toGo, hcons, List.length_cons]
    omega

/-- A step of a call that was made before leaves less to do. -/
theorem Move.toGo_lt {asked : List Request} {u : Nat} (h : Move setup p label u next asked p')
    (hown : label.isOwn = true)
    (hbatches : ∀ (v : Nat) (stage : Stage), p.tasks[v]? = some stage → stage.closes = false) :
    p'.toGo < p.toGo := by
  have hset : ∀ stage, p.tasks[u]? = some stage → next.toGo < stage.toGo →
      total Stage.toGo (p.tasks.set u next) < total Stage.toGo p.tasks :=
    fun _ hstage hlt => total_set_lt hstage hlt
  cases h with
  | refuse | begin | closeAgain | close => cases hown
  | use t isClosed e rest handle _ hstage =>
    exact hset _ hstage (by simp only [Stage.toGo]; omega)
  | reopen t isClosed e rest _ hstage => exact hset _ hstage (by simp only [Stage.toGo]; omega)
  | opened t e rest hstage => exact hset _ hstage (by simp only [Stage.toGo]; omega)
  | unopened t e rest err hstage => exact hset _ hstage (Nat.succ_pos _)
  | sent t handle e rest next prepared hstage hgo => exact hset _ hstage hgo.toGo_lt
  | unsent t handle e rest err hstage => exact hset _ hstage (Nat.succ_pos _)
  | drain t isClosed next asked _ hstage => cases hbatches _ _ hstage
  | closed t destination handle rest result next asked hstage => cases hbatches _ _ hstage

/-- As long as a batch has not returned, some call can go on. -/
theorem Disciplined.exists_mayGoOn (hd : p.Disciplined)
    (hbatches : ∀ (v : Nat) (stage : Stage), p.tasks[v]? = some stage → stage.closes = false)
    (hstage : p.tasks[t]? = some stage) (hactive : stage.isReturned = false) :
    ∃ u, MayGoOn setup p u := by
  have hanswered : ∀ {u : Nat} {e : Envelope} {rest : Batch}, p.tasks[u]? = some (.opening e rest) →
      MayGoOn setup p u := by
    intro u e rest hopening
    refine .inr fun result => ?_
    cases result <;> simp [step, answered, hopening]
  cases hneeds : stage.needsCache with
  | false =>
    cases stage with
    | sending handle e rest =>
      refine ⟨t, .inr fun result => ?_⟩
      cases result <;> simp [step, answered, hstage]
    | closing => cases hbatches t _ hstage
    | seeking | opening | draining => cases hneeds
    | returned => cases hactive
  | true =>
    -- the batch waits for the one that holds the lock, or holds it
    have hmem := (hd.mem_queue t).mpr ⟨stage, hstage, hneeds⟩
    obtain ⟨u, hheld⟩ := Lock.exists_isHeldBy hd.served hmem
    obtain ⟨stage', hstage', hneeds'⟩ := (hd.mem_queue u).mp (Lock.mem_queue_of_isHeldBy hheld)
    cases stage' with
    | seeking e rest =>
      refine ⟨u, .inl fun isClosed => ?_⟩
      simp only [step, hheld, if_true, proceed, hstage']
      split <;> rfl
    | opening e rest => exact ⟨u, hanswered hstage'⟩
    | draining => cases hbatches u _ hstage'
    | sending | closing | returned => cases hneeds'

theorem Shut.batches (hs : Shut history p) (hnever : NeverClosed history) (v : Nat) (stage : Stage)
    (hstage : p.tasks[v]? = some stage) : stage.closes = false := by
  cases hcloses : stage.closes with
  | false => rfl
  | true =>
    obtain ⟨beat, hbeat, hclose, _⟩ := hs.closing v stage hstage hcloses
    exact absurd hclose (hnever beat hbeat)

/-- Left to itself, a publisher that nothing closes comes to the end of each batch. -/
theorem Run.comesTo (h : Run setup .new history p) (hnever : NeverClosed history)
    (hbegan : Began history t batch) :
    ComesTo setup (fun q => ∃ result, q.tasks[t]? = some (.returned result)) p := by
  -- on the steps that the batches have yet to take
  induction hsize : p.toGo using Nat.strongRecOn generalizing history p with
  | _ n ih =>
    obtain ⟨stage, hstage, _⟩ := h.proceeds hbegan
    have hbatches := h.shut.batches hnever
    cases hactive : stage.isReturned with
    | true =>
      cases stage with
      | returned result => exact .here ⟨result, hstage⟩
      | _ => cases hactive
    | false =>
      refine .step (h.disciplined.exists_mayGoOn hbatches hstage hactive) ?_
      intro label p' events hown hstep
      obtain ⟨u, next, asked, hm, _⟩ := moves_of_step hstep
      have hnever' : NeverClosed (⟨p, label, events⟩ :: history) := by
        intro beat hbeat
        rcases List.mem_cons.mp hbeat with rfl | hbeat
        · rintro rfl
          cases hown
        · exact hnever beat hbeat
      obtain ⟨beat, hbeat, hbegan⟩ := hbegan
      exact ih p'.toGo (hsize ▸ hm.toGo_lt hown hbatches) (.step label h hstep) hnever'
        ⟨beat, List.mem_cons_of_mem _ hbeat, hbegan⟩ rfl

/-! ## §6 Batches -/

/-- However batches are published and the transport answers, as long as nothing closes the
publisher: a batch has sent a part of its messages, each once and in their order, and the envelopes
that the transport has taken are those of this part. The call returns without an error if it has sent
all messages; if one cannot be sent it returns the error of that, and nothing is done about those
after it. Left to itself, the call returns. -/
theorem batch_of_run (h : Run setup .new history p) (hnever : NeverClosed history)
    (hbegan : Began history t batch) :
    (∃ sent rest envelopes shown tail stage, batch.messages = sent ++ rest ∧
      p.tasks[t]? = some stage ∧ trace t history = shown ++ tail ∧
      Sends setup batch.context sent envelopes shown ∧
      Stands setup batch.context rest tail stage ∧ accepted (trace t history) = envelopes ∧
      ∀ result, stage = .returned result → (result = .ok () ↔ rest = [])) ∧
    ComesTo setup (fun q => ∃ result, q.tasks[t]? = some (.returned result)) p := by
  refine ⟨?_, h.comesTo hnever hbegan⟩
  obtain ⟨stage, hstage, sent, rest, envelopes, shown, tail, hmessages, hsends, hstands, htrace⟩ :=
    h.proceeds hbegan
  refine ⟨sent, rest, envelopes, shown, tail, stage, hmessages, hstage, htrace, hsends, hstands,
    ?_, fun result hresult => ?_⟩
  · rw [htrace, hsends.accepted, hstands.accepted, List.append_nil]
  · subst hresult
    cases hstands with
    | done => exact iff_of_true rfl rfl
    | failed m later error => exact iff_of_false nofun nofun

/-- Whether a batch has come to an end with messages left, when the transport had taken envelopes for
some destinations. -/
def BreaksOff (setup : Setup) (history : List Beat) (t : Nat) (batch : Batch)
    (destinations : List String) : Prop :=
  ∃ sent rest envelopes shown, batch.messages = sent ++ rest ∧ rest ≠ [] ∧
    Sends setup batch.context sent envelopes shown ∧ shown <+: trace t history ∧
    envelopes.map (·.destination) = destinations

/-- Three messages for two destinations, of which the second one has a body. -/
def threeMessages : Batch := ⟨.none, [.new "a", (Message.new "b").setText "paid", .new "a"]⟩

/-- The first of three messages is sent; no handle can be opened for the second one. -/
def brokenBatch : List Label :=
  [.publish threeMessages, .proceed 0 false, .answer 0 (.ok ()), .answer 0 (.ok ()),
    .proceed 0 false, .answer 0 (.error .notConnected)]

/-- No body can be encoded. -/
def refuse : Json → Except BrokerError (List UInt8) := fun _ => .error (.encoding "refused")

/-- The transport has taken the first of three messages. -/
def interruptedBatch : List Label :=
  [.publish threeMessages, .proceed 0 false, .answer 0 (.ok ()), .answer 0 (.ok ())]

/-- The batch returns the error of the second message, for which no handle can be opened, and the
transport has taken the first one only. It is the same with an encoder that refuses the body of the
second message. -/
theorem batch_without_second_handle :
    (∃ history p, replay Setup.plain [] .new brokenBatch = some (history, p) ∧
      NeverClosed history ∧ Began history 0 threeMessages ∧
      p.tasks[0]? = some (.returned (.error .notConnected)) ∧
      BreaksOff Setup.plain history 0 threeMessages ["a"]) ∧
    ∃ history p, replay (Setup.plain.withEncoder refuse) [] .new interruptedBatch
        = some (history, p) ∧
      NeverClosed history ∧ Began history 0 threeMessages ∧
      p.tasks[0]? = some (.returned (.error (.encoding "refused"))) ∧
      BreaksOff (Setup.plain.withEncoder refuse) history 0 threeMessages ["a"] := by
  have hbreaks : ∀ {setup history p error}, Run setup .new history p → NeverClosed history →
      Began history 0 threeMessages → p.tasks[0]? = some (.returned (.error error)) →
      (accepted (trace 0 history)).map (·.destination) = ["a"] →
      BreaksOff setup history 0 threeMessages ["a"] := by
    -- a batch that returns an error has a message that was not sent
    intro setup history p error hrun hnever hbegan hreturned haccepted
    obtain ⟨⟨sent, rest, envelopes, shown, tail, stage, hmessages, hstage, htrace, hsends, _,
      henvelopes, hreturn⟩, _⟩ := batch_of_run hrun hnever hbegan
    rw [hreturned, Option.some.injEq] at hstage
    refine ⟨sent, rest, envelopes, shown, hmessages, fun hnil => ?_, hsends,
      htrace ▸ List.prefix_append _ _, henvelopes ▸ haccepted⟩
    cases (hreturn _ hstage.symm).mpr hnil
  constructor
  · obtain ⟨history, p, hreplay, hnever, hbegan, hreturned, haccepted⟩ :
        ∃ history p, replay Setup.plain [] .new brokenBatch = some (history, p) ∧
          NeverClosed history ∧ Began history 0 threeMessages ∧
          p.tasks[0]? = some (.returned (.error .notConnected)) ∧
          (accepted (trace 0 history)).map (·.destination) = ["a"] :=
      ⟨_, _, rfl, by simp [NeverClosed], ⟨_, .tail _ (.tail _ (.tail _ (.tail _ (.tail _
        (.head _))))), rfl, rfl, rfl⟩, rfl, rfl⟩
    exact ⟨history, p, hreplay, hnever, hbegan, hreturned,
      hbreaks (run_of_replay .refl hreplay) hnever hbegan hreturned haccepted⟩
  · obtain ⟨history, p, hreplay, hnever, hbegan, hreturned, haccepted⟩ :
        ∃ history p, replay (Setup.plain.withEncoder refuse) [] .new interruptedBatch
            = some (history, p) ∧
          NeverClosed history ∧ Began history 0 threeMessages ∧
          p.tasks[0]? = some (.returned (.error (.encoding "refused"))) ∧
          (accepted (trace 0 history)).map (·.destination) = ["a"] :=
      ⟨_, _, rfl, by simp [NeverClosed], ⟨_, .tail _ (.tail _ (.tail _ (.head _))), rfl, rfl, rfl⟩,
        rfl, rfl⟩
    exact ⟨history, p, hreplay, hnever, hbegan, hreturned,
      hbreaks (run_of_replay .refl hreplay) hnever hbegan hreturned haccepted⟩

end Courier.Publisher
