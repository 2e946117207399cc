import Mathlib.Algebra.Order.Group.Nat
import Mathlib.Data.Nat.Basic

/-!
# Paced attempts

Attempts that a deadline paces: an attempt is made no earlier than the deadline, which then moves
on by a period, or to a period after the attempt when that is already over. So attempts keep their
rate however late some of them are, and a late one is not followed by a burst.
-/

namespace Pacing

/-- The deadline after an attempt at the time `t` that was due at `d`. -/
def next (p d t : Nat) : Nat := if d + p ≤ t then t + p else d + p

theorem add_le_next {p d t : Nat} : d + p ≤ next p d t := by
  unfold next
  split <;> omega

theorem lt_next {p d t : Nat} (hp : 0 < p) : t < next p d t := by
  unfold next
  split <;> omega

theorem next_le {p d t : Nat} (h : d ≤ t) : next p d t ≤ t + p := by
  unfold next
  split <;> omega

/-- An attempt that is late by a whole period puts the next one off by a period. -/
theorem next_of_late {p d t : Nat} (h : d + p ≤ t) : next p d t = t + p := if_pos h

/-- The times of attempts with the period `p`, the first of them due at `d`. -/
inductive Paced (p : Nat) : Nat → List Nat → Prop
  | nil (d : Nat) : Paced p d []
  | cons {d t : Nat} {ts : List Nat} (hdue : d ≤ t) (hrest : Paced p (next p d t) ts) :
      Paced p d (t :: ts)

namespace Paced

variable {p d : Nat} {ts : List Nat}

/-- Every attempt is at or after the first deadline. -/
theorem le_of_mem (h : Paced p d ts) : ∀ t ∈ ts, d ≤ t := by
  induction h with
  | nil => exact fun t ht => absurd ht List.not_mem_nil
  | @cons d t ts hdue _ ih =>
    have hnext : d + p ≤ next p d t := add_le_next
    intro t' ht'
    rcases List.mem_cons.1 ht' with rfl | hlater
    · exact hdue
    · exact le_trans (by omega) (ih t' hlater)

/-- The `k`-th attempt after the first is at least `k` periods after the first deadline. -/
theorem add_mul_le (h : Paced p d ts) : ∀ (k : Nat) (hk : k < ts.length), d + k * p ≤ ts[k] := by
  induction h with
  | nil => exact fun k hk => absurd hk (Nat.not_lt_zero k)
  | @cons d t ts hdue _ ih =>
    intro k hk
    cases k with
    | zero => simpa using hdue
    | succ k =>
      have hnext : d + p ≤ next p d t := add_le_next
      have hlater := ih k (Nat.lt_of_succ_lt_succ hk)
      rw [List.getElem_cons_succ, Nat.succ_mul]
      omega

theorem pairwise_lt (hp : 0 < p) (h : Paced p d ts) : ts.Pairwise (· < ·) := by
  induction h with
  | nil => exact List.Pairwise.nil
  | @cons d t ts _ hrest ih =>
    refine List.pairwise_cons.2 ⟨fun t' ht' => ?_, ih⟩
    exact Nat.lt_of_lt_of_le (lt_next hp) (hrest.le_of_mem t' ht')

/-- The attempts up to a time need a period each, up to the first. -/
theorem countP_le (h : Paced p d ts) (T : Nat) :
    ts.countP (· ≤ T) = 0 ∨ d + (ts.countP (· ≤ T) - 1) * p ≤ T := by
  induction h with
  | nil => exact .inl rfl
  | @cons d t ts hdue _ ih =>
    have hnext : d + p ≤ next p d t := add_le_next
    rw [List.countP_cons]
    by_cases ht : t ≤ T
    · rw [if_pos (by simpa using ht), Nat.add_sub_cancel]
      rcases ih with hnone | hsome
      · exact .inr (by rw [hnone]; omega)
      · cases hcount : ts.countP (· ≤ T) with
        | zero => exact .inr (by omega)
        | succ n =>
          rw [hcount, Nat.add_sub_cancel] at hsome
          exact .inr (by rw [Nat.succ_mul]; omega)
    · rw [if_neg (by simpa using ht), Nat.add_zero]
      exact ih.imp_right fun hsome => by omega

/-- **Rate bound**: with the first deadline a period after `s`, at most `(T - s) / p` attempts are
made by the time `T`. -/
theorem countP_le_div {s : Nat} (hp : 0 < p) (h : Paced p (s + p) ts) (T : Nat) :
    ts.countP (· ≤ T) ≤ (T - s) / p := by
  rcases h.countP_le T with hnone | hsome
  · rw [hnone]
    exact Nat.zero_le _
  · rw [Nat.le_div_iff_mul_le hp]
    cases hcount : ts.countP (· ≤ T) with
    | zero => omega
    | succ n =>
      rw [hcount, Nat.add_sub_cancel] at hsome
      rw [Nat.succ_mul]
      omega

end Paced

end Pacing
