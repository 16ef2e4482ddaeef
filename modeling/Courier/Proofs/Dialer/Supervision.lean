import Courier.Proofs.Dialer.Ledger

/-!
# Supervision of connections

When a dialer is at rest, the connection that it holds should be watched, and every other connection
should have been closed or have failed. This is so exactly if nothing went wrong on the way: if no
connection was let go of that has not failed, and the connection that is held was not left without
a watcher. Both can happen, for calls that overlap with each other or with a redialing watcher.
-/

namespace Courier.Dialer

variable {policy : Policy} {history : List (Dialer × Label)} {d : Dialer}

private theorem watcher_of_rest {Lost Orphaned : Nat → Prop} (hl : Ledger Lost Orphaned d.view)
    (hrest : d.AtRest) {t c : Nat} (ht : d.active? t = some (.watching c)) : d.watcher = some t := by
  rcases hl.placed t _ ht rfl with hslot | ⟨u, hu⟩
  · exact hslot
  · -- at rest no closing call waits for a watcher
    cases hrest u _ hu

private theorem watching_of_tends (hrest : d.AtRest) {t c : Nat} {stage : Stage}
    (ht : d.active? t = some stage) (hc : stage.tends? = some c) : stage = .watching c := by
  have hquiet := hrest t stage ht
  cases stage with
  | watching _ =>
    cases hc
    rfl
  | replacing _ _ _ | adopting _ => cases hquiet
  | _ => cases hc

section

variable {Lost Orphaned : Nat → Prop} (hl : Ledger Lost Orphaned d.view) (hrest : d.AtRest)

include hl hrest

private theorem supervised_iff_ledger :
    d.Supervised ↔ ∀ c, Orphaned c → d.held = some c → d.ended c = true := by
  constructor
  · intro hsupervised c horphaned hheld
    cases hended : d.ended c with
    | true => rfl
    | false =>
      -- a watcher of it would not have the place of the watcher, as every watcher at rest does
      obtain ⟨t, ht⟩ := hsupervised c hheld hended
      have hslot := watcher_of_rest hl hrest ht
      exact absurd hslot ((hl.orphaned c horphaned).2 t _ ht rfl).2
  · intro hkept c hheld hended
    rcases hl.kept c hheld with ⟨t, stage, ht, hc⟩ | ⟨t, ht⟩ | hend | horphaned
    · obtain rfl := watching_of_tends hrest ht hc
      exact ⟨t, ht⟩
    · -- a watcher that is about to give it up is not at rest
      cases hrest t _ ht
    · have hend' : d.ended c = true := hend
      rw [hend'] at hended
      cases hended
    · rw [hkept c horphaned hheld] at hended
      cases hended

private theorem noneLeaked_iff_ledger : d.NoneLeaked ↔ ∀ c, Lost c → d.reported c = true := by
  constructor
  · intro hnone c hlost
    obtain ⟨hlt, hclosed⟩ := hl.lost c hlost
    have hheld : d.held ≠ some c := fun h => (hl.held c h).2.2 hlost
    rcases hnone c hlt hheld with hclosings | hreported
    · have hclosed' : d.closings c = 0 := hclosed
      rw [hclosed'] at hclosings
      exact absurd hclosings (Nat.lt_irrefl 0)
    · exact hreported
  · intro hfailed c hlt hheld
    rcases hl.known c hlt with h | ⟨t, stage, ht, hc⟩ | hclosings | hlost
    · exact absurd h hheld
    · -- what is carried is on its way, and nothing is at rest
      have hquiet := hrest t stage ht
      cases stage with
      | installing _ _ => cases hquiet
      | _ => cases hc
    · exact .inl hclosings
    · exact .inr (hfailed c hlost)

end

/-- However connecting, reconnecting and closing calls, failures and answers of the connector follow
on each other: a dialer that has come to rest is supervised and leaks nothing exactly if the
connection that it holds was not left without a watcher in this run, or its failure signal has
ended, and every connection that was let go of in this run has reported a failure. -/
theorem supervised_and_noneLeaked_iff (hrun : Run policy history d) (hrest : d.AtRest) :
    d.Supervised ∧ d.NoneLeaked ↔
      (∀ c ∈ orphaned history, d.held = some c → d.ended c = true) ∧
      ∀ c ∈ lost history, d.reported c = true := by
  have hl := ledger_of_run hrun
  rw [supervised_iff_ledger hl hrest, noneLeaked_iff_ledger hl hrest]

/-- A policy that never gives up. -/
def patient : Policy := fun _ => ⟨Duration.ofSeconds 1, false⟩

/-- A call connects a dialer and returns. -/
def connecting : List Label := [.call .connect, .answer 0 (.ok ()), .proceed 0, .proceed 0]

/-- A connection fails, and its watcher replaces it. -/
def failure : List Label :=
  [.call .connect, .answer 0 (.ok ()), .proceed 0, .proceed 0, .report 0 (.connectionLost "reset"),
    .proceed 1, .proceed 1, .answer 1 (.ok ()), .proceed 1]

/-- The connection that has failed is let go of, and the one that replaces it is watched. -/
theorem supervised_after_failure :
    ∃ history d, replay patient [] .new failure = some (history, d) ∧ lost history = [0] ∧
      orphaned history = [] ∧ d.held = some 1 ∧ d.Supervised ∧ d.NoneLeaked := by
  obtain ⟨history, d, hreplay, hlost, horphaned, hheld, hrest, hreported⟩ :
      ∃ history d, replay patient [] .new failure = some (history, d) ∧ lost history = [0] ∧
        orphaned history = [] ∧ d.held = some 1 ∧ d.AtRest ∧ d.reported 0 = true :=
    ⟨_, _, rfl, rfl, rfl, rfl, by decide, rfl⟩
  refine ⟨history, d, hreplay, hlost, horphaned, hheld, ?_⟩
  refine (supervised_and_noneLeaked_iff (run_of_replay .new hreplay) hrest).mpr ⟨?_, ?_⟩
  · intro c hc
    rw [horphaned] at hc
    cases hc
  · intro c hc
    rw [hlost, List.mem_singleton] at hc
    rw [hc]
    exact hreported

/-- Two calls connect a dialer again, and the one that comes first closes the old connection
slowly. -/
def overlap : List Label :=
  [.call .connect, .answer 0 (.ok ()), .proceed 0, .proceed 0, .call .connect, .answer 2 (.ok ()),
    .proceed 2, .call .connect, .answer 3 (.ok ()), .proceed 3, .answer 3 (.ok ()), .proceed 3,
    .answer 2 (.ok ()), .proceed 2]

/-- A dialer at rest need not be supervised: of two calls that overlap, the one that returns last
puts a watcher of its own connection, which was replaced and closed, in the place of the watcher of
the connection that is held. -/
theorem not_supervised_after_overlap :
    ¬∀ (policy : Policy) (history : List (Dialer × Label)) (d : Dialer), Run policy history d →
      d.AtRest → d.Supervised ∧ d.NoneLeaked := by
  intro h
  obtain ⟨history, d, hreplay, hrest, hbare⟩ :
      ∃ history d, replay patient [] .new overlap = some (history, d) ∧ d.AtRest ∧
        ¬d.Supervised := ⟨_, _, rfl, by decide, by decide⟩
  exact hbare (h patient history d (run_of_replay .new hreplay) hrest).1

end Courier.Dialer
