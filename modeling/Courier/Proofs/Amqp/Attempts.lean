import Mathlib
import Courier.Proofs.Amqp.Table
import Courier.Proofs.Delivery

/-!
# Attempts in field tables

A broker may hold the number of attempts in an entry of any type for whole numbers, with any other
entries beside it. It is read as the number that it is, if that is not negative and fits 32 bits,
and its type makes no difference: `attempts_of_wholeNumber`.
-/

namespace Courier.Amqp

/-! ## §1 Whole numbers -/

/-- The number that a value of a type for whole numbers holds. An instant is a number of seconds. -/
def Value.wholeNumber? : Value → Option Int
  | .shortShortInt n => some n.toInt
  | .shortShortUInt n => some n.toNat
  | .shortInt n => some n.toInt
  | .shortUInt n => some n.toNat
  | .longInt n => some n.toInt
  | .longUInt n => some n.toNat
  | .longLongInt n => some n.toInt
  | .timestamp n => some n.toNat
  | .boolean _ | .float _ | .double _ | .decimal _ _ | .shortString _ | .longString _ | .array _
  | .table _ | .byteArray _ | .void => none

/-- A whole number of any type is read as its decimal text. -/
theorem Value.text?_of_wholeNumber {v : Value} {n : Int} (h : v.wholeNumber? = some n) :
    v.text? = some (Numeral.ofInt n) := by
  cases v with
  | shortShortInt | shortShortUInt | shortInt | shortUInt | longInt | longUInt | longLongInt
  | timestamp =>
    obtain rfl := Option.some.inj h
    rfl
  | _ => cases h

/-! ## §2 Attempts -/

namespace Table

/-- The headers of a table depend on its entries one by one. -/
theorem get?_toHeaders (t : Table) (key : String) :
    t.toHeaders.get? key = (t.get? key).bind Value.text? :=
  Dict.get?_filterMap (fun _ (v : Value) => v.text?) t key

/-- What a delivery records whose headers are those of a table with the decimal text of an integer:
the integer, if it is not negative and fits 32 bits. -/
theorem recordedAttempts_of_text {t : Table} {v : Value} {n : Int} {d : Delivery}
    (hentry : t.get? "x-retry-count" = some v) (htext : v.text? = some (Numeral.ofInt n))
    (hheaders : d.headers = headersOf (some t)) :
    (d.recordedAttempts : Int) = if 0 ≤ n ∧ n < 1 <<< 32 then n else 0 := by
  have hread : Delivery.recorded? d.headers = Numeral.readUnsigned (1 <<< 32) (Numeral.ofInt n) := by
    have hheader : d.headers.get? retryCountHeader = some (Numeral.ofInt n) := by
      rw [hheaders, headersOf, get?_toHeaders, retryCountHeader, hentry, Option.bind_some, htext]
    rw [Delivery.recorded?, hheader, Option.bind_some]
  rw [Delivery.recordedAttempts_eq_getD, hread]
  cases hnumber : Numeral.readUnsigned (1 <<< 32) (Numeral.ofInt n) with
  | some m =>
    obtain ⟨rfl, hm⟩ := Numeral.readUnsigned_ofInt_eq_some_iff.mp hnumber
    have hrange : 0 ≤ (m : Int) ∧ (m : Int) < 1 <<< 32 := ⟨Int.natCast_nonneg m, by omega⟩
    rw [if_pos hrange]
    rfl
  | none =>
    have hrange : ¬(0 ≤ n ∧ n < 1 <<< 32) := by
      intro h
      have hsome := Numeral.readUnsigned_ofInt_eq_some_iff.mpr
        (show n = n.toNat ∧ n.toNat < 1 <<< 32 by omega)
      rw [hnumber] at hsome
      cases hsome
    rw [if_neg hrange]
    rfl

/-- If the entry for the attempts holds a whole number of any type, then whatever other entries the
table has, the delivery that comes with it records this number, if it is not negative and fits 32
bits, and none otherwise; just as one that comes with the decimal text of the number in a long
string. -/
theorem attempts_of_wholeNumber {t : Table} {v : Value} {n : Int}
    (hentry : t.get? "x-retry-count" = some v) (hwhole : v.wholeNumber? = some n) (d : Delivery)
    (hheaders : d.headers = headersOf (some t)) :
    (d.recordedAttempts : Int) = (if 0 ≤ n ∧ n < 1 <<< 32 then n else 0) ∧
    ∀ (t' : Table) (d' : Delivery),
      t'.get? "x-retry-count" = some (.longString (Utf8.encode (Numeral.ofInt n))) →
      d'.headers = headersOf (some t') → d'.recordedAttempts = d.recordedAttempts := by
  have hattempts := recordedAttempts_of_text hentry (Value.text?_of_wholeNumber hwhole) hheaders
  refine ⟨hattempts, fun t' d' hentry' hheaders' => ?_⟩
  have hattempts' := recordedAttempts_of_text hentry' (Value.text?_longString _) hheaders'
  rw [← hattempts] at hattempts'
  exact Int.ofNat.inj hattempts'

/-- A table as a broker may send it, with a number of attempts and with the history of a message. -/
def tried (attempts : Value) : Table :=
  Dict.ofList [("x-death", .array [.table [("count", .longLongInt 2)]]), ("x-retry-count", attempts)]

/-- A delivery that comes with a table. -/
def deliver (t : Table) : Delivery :=
  ⟨"orders", none, none, headersOf (some t), [], true⟩

/-- The greatest number of attempts is read from an instant, as it is from a text. -/
theorem attempts_of_tried :
    (tried (.timestamp 4294967295)).get? "x-retry-count" = some (.timestamp 4294967295) ∧
    (deliver (tried (.timestamp 4294967295))).recordedAttempts = 4294967295 ∧
    (deliver (tried (.longString (Utf8.encode "4294967295")))).recordedAttempts = 4294967295 := by
  have hentry : ∀ v, (tried v).get? "x-retry-count" = some v := by
    intro v
    simp [tried, Dict.ofList, Dict.insertAll, Dict.get?_insert]
  have hwhole : (Value.timestamp 4294967295).wholeNumber? = some 4294967295 := rfl
  have htext : Numeral.ofInt 4294967295 = "4294967295" := by cbv
  obtain ⟨hnumber, hsame⟩ := attempts_of_wholeNumber (hentry (.timestamp 4294967295)) hwhole
    (deliver (tried (.timestamp 4294967295))) rfl
  rw [if_pos (by decide)] at hnumber
  rw [htext] at hsame
  refine ⟨hentry _, Int.ofNat.inj hnumber, ?_⟩
  rw [hsame _ _ (hentry _) rfl]
  exact Int.ofNat.inj hnumber

end Table

end Courier.Amqp
