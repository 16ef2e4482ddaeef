import Mathlib
import Courier.Amqp.Table
import Courier.Proofs.Dict
import Courier.Proofs.Text.Utf8

/-!
# Headers in field tables

Headers that were written to a field table are read back unchanged. So a table that comes from
anywhere is changed once, when its headers are first read: in all tables that are made from it after
that, by reading headers and writing them again, the same headers are found
(`headers_survive_hops`).
-/

namespace Courier.Amqp

/-! ## §1 Tables of headers -/

/-- The long string that a header is written as is read back as its text. -/
theorem Value.text?_longString (s : String) : text? (.longString (Utf8.encode s)) = some s := by
  rw [text?, Utf8.decode_encode]
  rfl

namespace Table

/-- Headers that were written to a table are read back unchanged. -/
theorem toHeaders_ofHeaders (headers : Headers) : toHeaders (ofHeaders headers) = headers :=
  Dict.filterMap_map (fun _ value => Value.text?_longString value) headers

/-- The table that headers are written to in the order in which they come. -/
def ofPairs (pairs : List (String × String)) : Table :=
  Dict.ofList (pairs.map fun p => (p.1, .longString (Utf8.encode p.2)))

/-- The order in which headers come makes no difference. -/
theorem ofPairs_eq {headers : Headers} {pairs : List (String × String)}
    (h : pairs.Perm headers.toList) : ofPairs pairs = ofHeaders headers :=
  Dict.ofList_of_perm (h.map fun p => (p.1, Value.longString (Utf8.encode p.2)))

/-! ## §2 Tables on their way -/

/-- A table that another one became on its way: in every hop, the headers of a table are read and
written to the next one, in any order. -/
inductive Hops (first : Table) : Table → Prop where
  | first : Hops first first
  | hop {t : Table} {pairs : List (String × String)} (before : Hops first t)
      (horder : pairs.Perm t.toHeaders.toList) : Hops first (ofPairs pairs)

/-- A hop keeps the headers. -/
theorem toHeaders_hop {t : Table} {pairs : List (String × String)}
    (h : pairs.Perm t.toHeaders.toList) : toHeaders (ofPairs pairs) = toHeaders t := by
  rw [ofPairs_eq h, toHeaders_ofHeaders]

/-- So does a table's whole way. -/
theorem Hops.toHeaders_eq {first t : Table} (h : Hops first t) :
    toHeaders t = toHeaders first := by
  induction h with
  | first => rfl
  | hop _ horder ih => rw [toHeaders_hop horder, ih]

/-- Headers are read back from the table that they were written to, in whatever order they were
written. And whatever values a table has, the headers that are read after any number of hops are
those that are read from the table itself. -/
theorem headers_survive_hops {headers : Headers} {pairs : List (String × String)}
    (horder : pairs.Perm headers.toList) {first last : Table} (hhops : Hops first last) :
    ofPairs pairs = ofHeaders headers ∧
    headersOf (some (ofHeaders headers)) = headers ∧
    headersOf (some last) = headersOf (some first) := by
  refine ⟨ofPairs_eq horder, ?_, ?_⟩
  · show toHeaders (ofHeaders headers) = headers
    exact toHeaders_ofHeaders headers
  · show toHeaders last = toHeaders first
    exact hhops.toHeaders_eq

/-- A table as a broker may send it: with a nested table, a truth value, a number, bytes that are no
text, and a text. -/
def deadLetters : Table :=
  Dict.ofList [("x-death", .array [.table [("count", .longLongInt 2)]]), ("urgent", .boolean true),
    ("x-retry-count", .longInt 2), ("digest", .longString [0xff]),
    ("tenant", .longString (Utf8.encode "acme"))]

/-- Three headers of it can be read. They are the same after two hops, the first of which writes
them from the last to the first. -/
theorem headers_survive_hops_deadLetters :
    [("x-retry-count", "2"), ("urgent", "true"), ("tenant", "acme")].Perm
      deadLetters.toHeaders.toList ∧
    (∃ last, Hops deadLetters last ∧
      (headersOf (some last)).toList
        = [("tenant", "acme"), ("urgent", "true"), ("x-retry-count", "2")]) := by
  have hread : deadLetters.toHeaders.toList
      = [("tenant", "acme"), ("urgent", "true"), ("x-retry-count", "2")] := by cbv
  have horder : [("x-retry-count", "2"), ("urgent", "true"), ("tenant", "acme")].Perm
      deadLetters.toHeaders.toList := by
    rw [hread]
    exact List.reverse_perm [("tenant", "acme"), ("urgent", "true"), ("x-retry-count", "2")]
  have hfirst := Hops.hop .first horder
  have hsecond := Hops.hop hfirst (.refl _)
  refine ⟨horder, _, hsecond, ?_⟩
  rw [(headers_survive_hops horder hsecond).2.2]
  exact hread

end Table

end Courier.Amqp
