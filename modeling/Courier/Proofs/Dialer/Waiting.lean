import Courier.Proofs.Dialer.Order
import Courier.Proofs.Dialer.Supervision

/-!
# Waiting for the connection

A call for a session should be refused at once when nothing is held, and not wait until another call
is through with the broker. This is so except while a reconnecting call closes the connection that
it has found: it keeps the lock until the connector has answered. Whoever else has the lock can go
on.
-/

namespace Courier.Dialer

variable {policy : Policy} {history : List (Dialer × Label)} {d : Dialer} {t : Nat} {a : Stage}

/-- A task has the lock of the connection and waits for an answer of the connector. -/
def WaitsWithLock (d : Dialer) : Prop :=
  ∃ t a, d.heldLock.isHeldBy t = true ∧ d.stage? t = some a ∧ a.awaits?.isSome = true

theorem waitsWithLock_iff_holder : d.WaitsWithLock ↔
    ((d.heldLock.holder.bind d.stage?).bind Stage.awaits?).isSome = true := by
  unfold WaitsWithLock
  simp only [Lock.isHeldBy_iff]
  cases d.heldLock.holder with
  | none => simp
  | some t => cases h : d.stage? t <;> simp [h]

instance : Decidable d.WaitsWithLock := decidable_of_iff _ waitsWithLock_iff_holder.symm

private theorem heldStake_eq_keeps : a.heldStake = .keeps ↔ ∃ old, a = .clearingOut old := by
  cases a <;> simp [Stage.heldStake]

private theorem clearingOut_of_awaits (hstake : a.heldStake ≠ .none)
    (hawaits : a.awaits?.isSome = true) : ∃ old, a = .clearingOut old := by
  cases a <;> simp [Stage.heldStake, Stage.awaits?] at hstake hawaits ⊢

private theorem Orderly.waits_iff (h : Orderly d) :
    d.WaitsWithLock ↔ ∃ t old, d.stage? t = some (.clearingOut old) := by
  constructor
  · -- whoever has the lock has a use for it, and only a reconnecting call waits with it
    rintro ⟨t, a, hheld, hstage, hawaits⟩
    obtain ⟨b, hstage', hstake⟩ := holder_of_serves h.held hheld
    have hsame : b = a := Option.some.inj (hstage'.symm.trans hstage)
    obtain ⟨old, rfl⟩ := clearingOut_of_awaits (hsame ▸ hstake) hawaits
    exact ⟨t, old, hstage⟩
  · rintro ⟨t, old, hstage⟩
    have hkeeps : d.stake Stage.heldStake t = .keeps := by simp [stake, hstage, Stage.heldStake]
    have hheld : d.heldLock.isHeldBy t = true := h.held.keeps t hkeeps
    exact ⟨t, .clearingOut old, hheld, hstage, rfl⟩

theorem Orderly.mayGoOn (h : Orderly d) (hheld : d.heldLock.isHeldBy t = true)
    (hclear : ∀ old, d.stage? t ≠ some (.clearingOut old)) : MayGoOn policy d t := by
  obtain ⟨a, hstage, hstake⟩ := holder_of_serves h.held hheld
  apply mayGoOn_of_heldLock hheld hstage
  cases hcase : a.heldStake with
  | none => exact absurd hcase hstake
  | wants => rfl
  | keeps =>
    obtain ⟨old, rfl⟩ := heldStake_eq_keeps.mp hcase
    exact absurd hstage (hclear old)

/-- However calls and watchers take turns: the task that has the lock of the connection waits for
the connector exactly if it is a reconnecting call that closes what it has found. As long as there
is none, every task that waits for the lock waits for one that can go on of itself. -/
theorem waitsWithLock_iff (hrun : Run policy history d) :
    (d.WaitsWithLock ↔ ∃ t old, d.stage? t = some (.clearingOut old)) ∧
    (¬d.WaitsWithLock → ∀ u a, d.stage? u = some a → a.heldStake = .wants →
      ∃ t, d.heldLock.isHeldBy t = true ∧ MayGoOn policy d t) := by
  have h := orderly_of_run hrun
  refine ⟨h.waits_iff, fun hnot u a hstage hstake => ?_⟩
  obtain ⟨t, _, hheld, _⟩ := exists_holder h.held hstage (by simp [hstake])
  refine ⟨t, hheld, h.mayGoOn hheld fun old hclear => ?_⟩
  exact hnot (h.waits_iff.mpr ⟨t, old, hclear⟩)

/-- A call for a session has the lock itself, and goes on. -/
theorem mayGoOn_for_session :
    ∃ history d, replay patient [] .new (connecting ++ [.call .session]) = some (history, d) ∧
      d.stage? 2 = some .seeking ∧ ∃ t, d.heldLock.isHeldBy t = true ∧ MayGoOn patient d t := by
  obtain ⟨history, d, hreplay, hstage, hnot⟩ :
      ∃ history d, replay patient [] .new (connecting ++ [.call .session]) = some (history, d) ∧
        d.stage? 2 = some .seeking ∧ ¬d.WaitsWithLock := ⟨_, _, rfl, rfl, by decide⟩
  refine ⟨history, d, hreplay, hstage, ?_⟩
  exact (waitsWithLock_iff (run_of_replay .new hreplay)).2 hnot 2 _ hstage rfl

/-- A reconnecting call closes what is held, and a session is called for. -/
def slowReconnect : List Label := connecting ++ [.call .reconnect, .proceed 2, .call .session]

/-- A task may well wait for the connector while it has the lock: a reconnecting call closes what it
has found, and a call for a session waits behind it although nothing is held any more. -/
theorem not_never_waitsWithLock :
    ¬∀ (policy : Policy) (history : List (Dialer × Label)) (d : Dialer), Run policy history d →
      ∀ t a, d.heldLock.isHeldBy t = true → d.stage? t = some a → a.awaits? = none := by
  intro h
  obtain ⟨history, d, hreplay, hheld, hstage⟩ :
      ∃ history d, replay patient [] .new slowReconnect = some (history, d) ∧
        d.heldLock.isHeldBy 2 = true ∧ d.stage? 2 = some (.clearingOut 0) := ⟨_, _, rfl, rfl, rfl⟩
  cases h patient history d (run_of_replay .new hreplay) 2 _ hheld hstage

end Courier.Dialer
