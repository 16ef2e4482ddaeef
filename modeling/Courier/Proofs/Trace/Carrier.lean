import Mathlib
import Courier.Proofs.Dict
import Courier.Proofs.Text.Lowercase
import Courier.Trace.Context

/-!
# What is set and what is found

A propagator sets its pairs under keys in small letters and looks its keys up as they are. So what
it has set is found under the small form of a key, whatever the headers were before and however
often the key was set; under the key itself it is found if the key is in small letters
(`read_as_set_iff`).
-/

namespace Courier.Trace

/-! ## §1 The last pair of a key -/

/-- The value is that of the last pair whose key has the same small form. -/
inductive LastSet (key value : String) : List (String × String) → Prop where
  | last {k : String} {rest : List (String × String)}
      (hkey : Text.lowercase k = Text.lowercase key)
      (hrest : ∀ p ∈ rest, Text.lowercase p.1 ≠ Text.lowercase key) :
      LastSet key value ((k, value) :: rest)
  | earlier {p : String × String} {rest : List (String × String)}
      (hrest : LastSet key value rest) : LastSet key value (p :: rest)

/-- Of the pairs with one small form, one is the last. -/
theorem exists_lastSet {key : String} {pairs : List (String × String)}
    (h : ∃ p ∈ pairs, Text.lowercase p.1 = Text.lowercase key) :
    ∃ value, LastSet key value pairs := by
  induction pairs with
  | nil =>
    obtain ⟨p, hmem, -⟩ := h
    cases hmem
  | cons p rest ih =>
    by_cases hlater : ∃ q ∈ rest, Text.lowercase q.1 = Text.lowercase key
    · obtain ⟨value, hvalue⟩ := ih hlater
      exact ⟨value, .earlier hvalue⟩
    · -- no later pair has this form, so `p` is the one that `h` speaks of
      obtain ⟨q, hmem, hkey⟩ := h
      rcases List.mem_cons.mp hmem with rfl | hrest
      · exact ⟨q.2, .last hkey fun r hr heq => hlater ⟨r, hr, heq⟩⟩
      · exact absurd ⟨q, hrest, hkey⟩ hlater

/-! ## §2 Look-ups -/

theorem setPairs_cons (headers : Dict String) (p : String × String)
    (rest : List (String × String)) : setPairs headers (p :: rest)
      = setPairs (headers.insert (Text.lowercase p.1) p.2) rest := rfl

/-- A key that is the small form of none of the pairs is left as it was. -/
theorem get?_setPairs_of_forall_ne (headers : Dict String) {pairs : List (String × String)}
    {key : String} (h : ∀ p ∈ pairs, Text.lowercase p.1 ≠ key) :
    (setPairs headers pairs).get? key = headers.get? key := by
  apply Dict.get?_insertAll_of_not_mem
  rw [List.map_map]
  intro hmem
  obtain ⟨p, hp, heq⟩ := List.mem_map.mp hmem
  exact h p hp heq

/-- What was set last is found under the small form. -/
theorem LastSet.get?_setPairs {key value : String} {pairs : List (String × String)}
    (h : LastSet key value pairs) (headers : Dict String) :
    (setPairs headers pairs).get? (Text.lowercase key) = some value := by
  induction h generalizing headers with
  | last hkey hrest =>
    rw [setPairs_cons, get?_setPairs_of_forall_ne _ hrest, Dict.get?_insert, if_pos hkey]
  | earlier _ ih => rw [setPairs_cons, ih]

/-- There is one last value, for it is the one that is found. -/
theorem LastSet.unique {key value other : String} {pairs : List (String × String)}
    (h : LastSet key value pairs) (hother : LastSet key other pairs) : value = other := by
  have hfound := h.get?_setPairs Dict.empty
  rw [hother.get?_setPairs Dict.empty] at hfound
  exact (Option.some.inj hfound).symm

/-- Keys that have a capital are never set, for small forms have none. -/
theorem get?_setPairs_of_not_small (headers : Dict String) (pairs : List (String × String))
    {key : String} (h : Text.lowercase key ≠ key) :
    (setPairs headers pairs).get? key = headers.get? key := by
  apply get?_setPairs_of_forall_ne
  rintro p - rfl
  exact h (Text.lowercase_lowercase p.1)

/-! ## §3 Carriers -/

/-- A key that was set has a last value, which is found under the small form of the key, whatever
the headers were before. Under the key itself this value is found exactly if the key is in small
letters or the headers had the very value there before. -/
theorem read_as_set_iff (headers : Dict String) {pairs : List (String × String)} {key : String}
    (hset : key ∈ pairs.map Prod.fst) : ∃ value, LastSet key value pairs ∧
      (setPairs headers pairs).get? (Text.lowercase key) = some value ∧
      ((setPairs headers pairs).get? key = some value ↔
        Text.lowercase key = key ∨ headers.get? key = some value) := by
  obtain ⟨p, hp, rfl⟩ := List.mem_map.mp hset
  obtain ⟨value, hlast⟩ := exists_lastSet ⟨p, hp, rfl⟩
  have hfound := hlast.get?_setPairs headers
  refine ⟨value, hlast, hfound, ?_⟩
  by_cases hsmall : Text.lowercase p.1 = p.1
  · rw [hsmall] at hfound
    exact iff_of_true hfound (.inl hsmall)
  · -- no pair is set under a key with a capital, so what was there before is still there
    rw [get?_setPairs_of_not_small headers pairs hsmall]
    exact ⟨.inr, fun h => h.resolve_left hsmall⟩

/-- Three pairs, two of them under keys with one small form. -/
def mixedPairs : List (String × String) :=
  [("traceparent", "first"), ("tracestate", "vendor=1"), ("TraceParent", "second")]

/-- Of the two pairs the last one is found, and also under the key of the first. -/
theorem read_as_set_of_mixedPairs : "traceparent" ∈ mixedPairs.map Prod.fst ∧
    LastSet "traceparent" "second" mixedPairs ∧
    (setPairs (Dict.ofList [("traceparent", "old")]) mixedPairs).get? "traceparent"
      = some "second" := by
  have hset : "traceparent" ∈ mixedPairs.map Prod.fst := .head _
  have hsmall : Text.lowercase "traceparent" = "traceparent" := by cbv
  have hsecond : LastSet "traceparent" "second" mixedPairs :=
    .earlier (.earlier (.last (by cbv) (List.forall_mem_nil _)))
  obtain ⟨value, hlast, -, hiff⟩ :=
    read_as_set_iff (Dict.ofList [("traceparent", "old")]) hset
  obtain rfl := hlast.unique hsecond
  exact ⟨hset, hlast, hiff.mpr (.inl hsmall)⟩

/-- Not every key is found that was set: nothing stands under a key that has a capital. -/
theorem not_read_as_set : ¬∀ (headers : Dict String) (pairs : List (String × String))
    (key : String), key ∈ pairs.map Prod.fst →
      ∃ value, LastSet key value pairs ∧ (setPairs headers pairs).get? key = some value := by
  intro h
  obtain ⟨value, -, hfound⟩ := h Dict.empty [("TraceParent", "v")] "TraceParent" (.head _)
  have hcapital : Text.lowercase "TraceParent" ≠ "TraceParent" := by
    have hsmall : Text.lowercase "TraceParent" = "traceparent" := by cbv
    rw [hsmall]
    decide
  rw [get?_setPairs_of_not_small _ _ hcapital, Dict.get?_empty] at hfound
  cases hfound

end Courier.Trace
