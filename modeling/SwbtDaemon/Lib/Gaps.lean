import Mathlib.Algebra.BigOperators.Group.List.Basic
import Mathlib.Algebra.Order.BigOperators.Group.List
import Mathlib.Algebra.GroupWithZero.Nat
import Mathlib.Algebra.Order.Group.Nat

/-!
# Gaps between readings

The differences of successive readings of a clock. A reading that is added at the end adds one gap;
the gaps of readings that never go back sum up to the time from the first reading to the last one.
-/

namespace Gaps

/-- The differences of successive readings. -/
def gaps (ts : List Nat) : List Nat := List.zipWith (fun next t => next - t) ts.tail ts

@[simp] theorem gaps_nil : gaps [] = [] := rfl

@[simp] theorem gaps_singleton (t : Nat) : gaps [t] = [] := rfl

theorem gaps_cons_cons (t next : Nat) (ts : List Nat) :
    gaps (t :: next :: ts) = (next - t) :: gaps (next :: ts) := rfl

@[simp] theorem length_gaps (ts : List Nat) : (gaps ts).length = ts.length - 1 := by
  rw [gaps, List.length_zipWith, List.length_tail]
  omega

/-- A new reading adds its difference from the last one. -/
theorem gaps_concat {ts : List Nat} {last : Nat} (h : ts.getLast? = some last) (t : Nat) :
    gaps (ts ++ [t]) = gaps ts ++ [t - last] := by
  induction ts with
  | nil => simp at h
  | cons first ts ih =>
    cases ts with
    | nil =>
      obtain rfl : first = last := by simpa using h
      rfl
    | cons next ts =>
      have hrest := ih (by simpa using h)
      rw [List.cons_append] at hrest
      rw [List.cons_append, List.cons_append, gaps_cons_cons, gaps_cons_cons, hrest,
        List.cons_append]

/-- **Telescoping**: the gaps of readings that never go back sum up to the time between the first
and the last. -/
theorem add_sum_gaps {ts : List Nat} (hsorted : ts.IsChain (· ≤ ·)) {first last : Nat}
    (hfirst : ts.head? = some first) (hlast : ts.getLast? = some last) :
    first + (gaps ts).sum = last := by
  induction ts generalizing first with
  | nil => simp at hfirst
  | cons t ts ih =>
    obtain rfl : t = first := by simpa using hfirst
    cases ts with
    | nil => simpa using hlast
    | cons next ts =>
      obtain ⟨hnext, hsorted⟩ := List.isChain_cons_cons.1 hsorted
      have hrest := ih hsorted rfl (by simpa using hlast)
      rw [gaps_cons_cons, List.sum_cons]
      omega

theorem sum_gaps_le {ts : List Nat} (hsorted : ts.IsChain (· ≤ ·)) {last : Nat}
    (hlast : ts.getLast? = some last) : (gaps ts).sum ≤ last := by
  cases ts with
  | nil => simp at hlast
  | cons first ts =>
    have h := add_sum_gaps hsorted rfl hlast
    omega

/-! ## Largest value and average -/

/-- The largest value of a list, `0` for the empty one. -/
def largest (xs : List Nat) : Nat := xs.max?.getD 0

@[simp] theorem largest_nil : largest [] = 0 := rfl

@[simp] theorem largest_concat (xs : List Nat) (x : Nat) :
    largest (xs ++ [x]) = max (largest xs) x := by
  cases xs with
  | nil => simp [largest]
  | cons y xs =>
    rw [largest, largest, List.cons_append, List.max?_cons', List.max?_cons', List.foldl_append]
    rfl

theorem le_largest {xs : List Nat} {x : Nat} (h : x ∈ xs) : x ≤ largest xs :=
  List.le_max?_getD_of_mem h

/-- An average, rounded down, is not above the largest value. -/
theorem average_le_largest (xs : List Nat) : xs.sum / xs.length ≤ largest xs := by
  have hsum : xs.sum ≤ xs.length * largest xs := by
    simpa using List.sum_le_card_nsmul xs (largest xs) fun x hx => le_largest hx
  exact Nat.div_le_of_le_mul hsum

end Gaps
