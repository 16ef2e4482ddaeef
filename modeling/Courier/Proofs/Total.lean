/-!
# Sums over lists

How much is left to do is a sum over the tasks. A step changes one task, and the sum by as much.
-/

namespace Courier

variable {α : Type} {f : α → Nat} {l : List α} {n : Nat} {x : α}

def total (f : α → Nat) (l : List α) : Nat := l.foldr (fun x rest => f x + rest) 0

/-- A change of one entry changes the sum by as much as it changes the entry. -/
theorem total_set (y : α) (h : l[n]? = some x) :
    total f (l.set n y) + f x = total f l + f y := by
  unfold total
  induction l generalizing n with
  | nil => cases h
  | cons z l ih =>
    cases n with
    | zero =>
      cases h
      simp only [List.set_cons_zero, List.foldr_cons]
      omega
    | succ n =>
      have hrest := ih h
      simp only [List.set_cons_succ, List.foldr_cons]
      omega

theorem total_set_lt {y : α} (h : l[n]? = some x) (hlt : f y < f x) :
    total f (l.set n y) < total f l := by
  have htotal := total_set (f := f) y h
  omega

end Courier
