import SwbtDaemon.Lib.Runs

/-!
# Runs with a clock

Some inputs of a step function bear a clock reading. `clocked` keeps the last reading beside the
state; that the readings of a run never go back is then a condition on each of its steps.
-/

namespace Runs

variable {σ ι : Type*}

/-- The step that also keeps the last reading. -/
def clocked (step : σ → ι → σ) (reading : ι → Option Nat) (s : σ × Nat) (i : ι) : σ × Nat :=
  (step s.1 i, (reading i).getD s.2)

/-- The input does not bear a reading before the last one. -/
def Onward (reading : ι → Option Nat) (s : σ × Nat) (i : ι) : Prop :=
  ∀ t, reading i = some t → s.2 ≤ t

theorem run_clocked_fst (step : σ → ι → σ) (reading : ι → Option Nat) (s : σ × Nat)
    (is : List ι) : (run (clocked step reading) s is).1 = run step s.1 is := by
  induction is generalizing s with
  | nil => rfl
  | cons i is ih => exact ih (clocked step reading s i)

/-- A guard on the state alone. -/
theorem allSteps_clocked {step : σ → ι → σ} {reading : ι → Option Nat} {g : σ → ι → Prop}
    {s : σ × Nat} {is : List ι} (h : AllSteps step g s.1 is) :
    AllSteps (clocked step reading) (fun s i => g s.1 i) s is := by
  induction is generalizing s with
  | nil => trivial
  | cons i is ih => exact ⟨h.1, ih h.2⟩

theorem Onward.le_getD {reading : ι → Option Nat} {s : σ × Nat} {i : ι}
    (h : Onward reading s i) : s.2 ≤ (reading i).getD s.2 := by
  cases hi : reading i with
  | none => exact Nat.le_refl _
  | some t => exact h t hi

/-- Readings that never go back, at or after the last one, go onward at each step. -/
theorem allSteps_onward {step : σ → ι → σ} {reading : ι → Option Nat} {s : σ × Nat} {is : List ι}
    (hsorted : (is.filterMap reading).Pairwise (· ≤ ·))
    (hlast : ∀ t ∈ is.filterMap reading, s.2 ≤ t) :
    AllSteps (clocked step reading) (Onward reading) s is := by
  induction is generalizing s with
  | nil => trivial
  | cons i is ih =>
    cases hi : reading i with
    | none =>
      rw [List.filterMap_cons_none hi] at hsorted hlast
      refine ⟨fun t ht => absurd (hi.symm.trans ht) (nomatch ·), ih hsorted fun t ht => ?_⟩
      rw [clocked, hi]
      exact hlast t ht
    | some now =>
      rw [List.filterMap_cons_some hi] at hsorted hlast
      obtain ⟨hnow, hsorted⟩ := List.pairwise_cons.1 hsorted
      refine ⟨fun t ht => ?_, ih hsorted fun t ht => ?_⟩
      · obtain rfl : now = t := Option.some.inj (hi.symm.trans ht)
        exact hlast now List.mem_cons_self
      · rw [clocked, hi]
        exact hnow t ht

end Runs
