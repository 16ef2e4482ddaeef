import Courier.Message
import Courier.Proofs.Dict
import Courier.Proofs.Retry
import Courier.Proofs.Text.Grammar

/-!
# Attempts recorded in headers

A number of attempts that was written to the headers of a delivery is read back from them. Headers
come from anywhere, so what is read from them is said of all headers: `recordedAttempts_eq_iff`.
-/

namespace Courier

namespace Delivery

/-! ## §1 Attempts are read back -/

/-- The attempts that were recorded in a delivery are read back. -/
theorem recordedAttempts_recordAttempts (d : Delivery) {made : Nat} (h : made ≤ maxAttempts) :
    (d.recordAttempts made).recordedAttempts = made := by
  have hlt : made < 1 <<< 32 := by
    unfold maxAttempts at h
    omega
  have hheader : (d.recordAttempts made).header retryCountHeader = some (Numeral.ofNat made) := by
    rw [header, recordAttempts, Dict.get?_insert, if_pos rfl]
  rw [recordedAttempts, hheader]
  simp only [Numeral.readUnsigned_ofNat hlt, Option.getD_some]

/-- Whatever the headers of a delivery hold, no number is read that is not counted. -/
theorem recordedAttempts_le (d : Delivery) : d.recordedAttempts ≤ maxAttempts := by
  unfold recordedAttempts
  split
  · rename_i text _
    cases hread : Numeral.readUnsigned (1 <<< 32) text with
    | none => exact Nat.zero_le _
    | some n => exact Nat.le_pred_of_lt (Numeral.readUnsigned_lt hread)
  · exact Nat.zero_le _

/-- Attempts are read from the headers only. -/
theorem recordedAttempts_congr {a b : Delivery} (h : a.headers = b.headers) :
    a.recordedAttempts = b.recordedAttempts := by
  unfold recordedAttempts header
  rw [h]

/-! ## §2 What headers record -/

/-- Whether headers record a number of attempts: under one name, spelled in one way, stands an
optional plus sign and digits, and what they stand for fits 32 bits. -/
def Records (headers : Headers) (n : Nat) : Prop :=
  ∃ text, ("x-retry-count", text) ∈ headers.toList ∧ Numeral.Unsigned text.toList n ∧ n < 1 <<< 32

/-- The number that is read from headers, if any is. -/
def recorded? (headers : Headers) : Option Nat :=
  (headers.get? retryCountHeader).bind (Numeral.readUnsigned (1 <<< 32))

theorem recordedAttempts_eq_getD (d : Delivery) :
    d.recordedAttempts = (recorded? d.headers).getD 0 := by
  unfold recordedAttempts recorded? header
  cases d.headers.get? retryCountHeader <;> rfl

/-- The number that is read is the one that is recorded. -/
theorem recorded?_eq_some_iff {headers : Headers} {n : Nat} :
    recorded? headers = some n ↔ Records headers n := by
  rw [recorded?, Option.bind_eq_some_iff]
  constructor
  · rintro ⟨text, hget, hread⟩
    exact ⟨text, Dict.mem_toList_of_get? hget, Numeral.readUnsigned_eq_some_iff.mp hread⟩
  · rintro ⟨text, hmem, hnumeral⟩
    exact ⟨text, Dict.get?_of_mem_toList hmem, Numeral.readUnsigned_eq_some_iff.mpr hnumeral⟩

/-- Whatever headers a delivery has, its attempts are those that the headers record, and none if
they record no number at all. So a number of 32 bits that is written is read back. -/
theorem recordedAttempts_eq_iff (d : Delivery) :
    (∀ n, d.recordedAttempts = n ↔
      Records d.headers n ∨ n = 0 ∧ ∀ m, ¬Records d.headers m) ∧
    ∀ made : UInt32, (d.recordAttempts made.toNat).recordedAttempts = made.toNat := by
  constructor
  · intro n
    simp only [recordedAttempts_eq_getD, ← recorded?_eq_some_iff]
    cases recorded? d.headers with
    | none => simp [eq_comm]
    | some m => simp
  · intro made
    have hmost : made.toNat < 1 <<< 32 := made.toNat_lt
    exact d.recordedAttempts_recordAttempts (Nat.le_pred_of_lt hmost)

/-- Leading zeros are read over. A second sign, a minus sign, a blank, and a number that needs more
than 32 bits are not read. -/
example : (["0", "+007", "4294967295"].map (Numeral.readUnsigned (1 <<< 32)),
      ["", "+", "++1", "-1", " 1", "1_0", "4294967296"].filterMap (Numeral.readUnsigned (1 <<< 32)))
    = ([some 0, some 7, some 4294967295], []) := by
  decide

end Delivery

end Courier
