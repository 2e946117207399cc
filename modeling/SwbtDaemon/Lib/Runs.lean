import Mathlib.Data.List.Basic

/-!
# Runs of a step function

A deterministic system is a step function `σ → ι → σ`: a state and an input give the next state.
A run is the fold of the step over a list of inputs. The rules here reduce a property of every run
to a property of one step.
-/

namespace Runs

variable {σ ι : Type*}

/-- The state after the inputs `is`, from the state `s`. -/
def run (step : σ → ι → σ) (s : σ) (is : List ι) : σ := is.foldl step s

@[simp] theorem run_nil (step : σ → ι → σ) (s : σ) : run step s [] = s := rfl

@[simp] theorem run_cons (step : σ → ι → σ) (s : σ) (i : ι) (is : List ι) :
    run step s (i :: is) = run step (step s i) is := rfl

theorem run_append (step : σ → ι → σ) (s : σ) (is js : List ι) :
    run step s (is ++ js) = run step (run step s is) js :=
  List.foldl_append

/-- Every step of the run from `s` over `is` meets the guard `g`, read at the state before it. -/
def AllSteps (step : σ → ι → σ) (g : σ → ι → Prop) : σ → List ι → Prop
  | _, [] => True
  | s, i :: is => g s i ∧ AllSteps step g (step s i) is

/-- How many steps of the run from `s` over `is` meet the test `g`, read at the state before each. -/
def count (step : σ → ι → σ) (g : σ → ι → Bool) : σ → List ι → Nat
  | _, [] => 0
  | s, i :: is => (g s i).toNat + count step g (step s i) is

section Rules

variable {step : σ → ι → σ} {g : σ → ι → Prop} {P : σ → Prop}

@[simp] theorem allSteps_nil (s : σ) : AllSteps step g s [] := trivial

@[simp] theorem allSteps_cons (s : σ) (i : ι) (is : List ι) :
    AllSteps step g s (i :: is) ↔ g s i ∧ AllSteps step g (step s i) is := Iff.rfl

theorem allSteps_append (s : σ) (is js : List ι) :
    AllSteps step g s (is ++ js) ↔
      AllSteps step g s is ∧ AllSteps step g (run step s is) js := by
  induction is generalizing s with
  | nil => simp
  | cons i is ih => simp [ih, and_assoc]

/-- All steps meet the guard when each input does in the state that the inputs before it reach. -/
theorem allSteps_iff_forall_split (s : σ) (is : List ι) :
    AllSteps step g s is ↔ ∀ js i ks, is = js ++ i :: ks → g (run step s js) i := by
  constructor
  · rintro h js i ks rfl
    exact ((allSteps_append s js (i :: ks)).1 h).2.1
  · intro h
    induction is generalizing s with
    | nil => trivial
    | cons i is ih =>
      refine ⟨h [] i is rfl, ih (step s i) fun js j ks hsplit => ?_⟩
      exact h (i :: js) j ks (by rw [hsplit, List.cons_append])

theorem AllSteps.and {g' : σ → ι → Prop} {s : σ} {is : List ι} (h : AllSteps step g s is)
    (h' : AllSteps step g' s is) : AllSteps step (fun s i => g s i ∧ g' s i) s is := by
  induction is generalizing s with
  | nil => trivial
  | cons i is ih => exact ⟨⟨h.1, h'.1⟩, ih h.2 h'.2⟩

theorem allSteps_of_forall {is : List ι} (h : ∀ s, ∀ i ∈ is, g s i) (s : σ) :
    AllSteps step g s is := by
  induction is generalizing s with
  | nil => trivial
  | cons i is ih =>
    exact ⟨h s i List.mem_cons_self, ih (fun s j hj => h s j (List.mem_cons_of_mem i hj)) _⟩

/-- **Invariant rule**: what every step preserves, every run preserves. -/
theorem run_invariant (hstep : ∀ s i, P s → P (step s i)) {s : σ} (hs : P s) (is : List ι) :
    P (run step s is) := by
  induction is generalizing s with
  | nil => exact hs
  | cons i is ih => exact ih (hstep s i hs)

/-- **Guarded invariant rule**: what every step that meets the guard preserves, every run whose
steps all meet the guard preserves. -/
theorem run_invariant_of_allSteps (hstep : ∀ s i, P s → g s i → P (step s i)) {s : σ} (hs : P s)
    {is : List ι} (hg : AllSteps step g s is) : P (run step s is) := by
  induction is generalizing s with
  | nil => exact hs
  | cons i is ih => exact ih (hstep s i hs hg.1) hg.2

/-- **Exact guard rule**: when, under an invariant that guarded steps keep, the guard is exactly
what makes the next state good, the states of a run are all good if and only if all its steps meet
the guard. -/
theorem run_forall_iff_allSteps {Q : σ → Prop} (hgood : ∀ s, P s → Q s)
    (hstep : ∀ s i, P s → g s i → P (step s i)) (hexact : ∀ s i, P s → Q (step s i) → g s i)
    {s : σ} (hs : P s) (is : List ι) :
    (∀ js, js <+: is → Q (run step s js)) ↔ AllSteps step g s is := by
  constructor
  · intro hall
    induction is generalizing s with
    | nil => trivial
    | cons i is ih =>
      have hi : g s i := hexact s i hs (hall [i] (by simp))
      refine ⟨hi, ih (hstep s i hs hi) fun js hjs => ?_⟩
      exact hall (i :: js) (List.cons_prefix_cons.2 ⟨rfl, hjs⟩)
  · rintro hg js ⟨ks, rfl⟩
    rw [allSteps_append] at hg
    exact hgood _ (run_invariant_of_allSteps hstep hs hg.1)

/-- **Tally rule**: a counter modulo `w` that each step raises by one exactly when it meets the test
is, after a run, raised by the number of the steps that meet it. -/
theorem run_tally {m : σ → Nat} {w : Nat} {t : σ → ι → Bool}
    (hstep : ∀ s i, m (step s i) = (m s + (t s i).toNat) % w) {s : σ} (hs : m s < w)
    (is : List ι) : m (run step s is) = (m s + count step t s is) % w := by
  induction is generalizing s with
  | nil => simp [count, Nat.mod_eq_of_lt hs]
  | cons i is ih =>
    have hlt : m (step s i) < w := by
      rw [hstep]
      exact Nat.mod_lt _ (Nat.zero_lt_of_lt hs)
    rw [run_cons, ih hlt, hstep, count, Nat.mod_add_mod, Nat.add_assoc]

/-- Two tests that split a test of the input alone split the inputs that meet it. -/
theorem count_add_count {t u : σ → ι → Bool} {f : ι → Bool}
    (h : ∀ s i, (t s i).toNat + (u s i).toNat = (f i).toNat) (s : σ) (is : List ι) :
    count step t s is + count step u s is = is.countP f := by
  induction is generalizing s with
  | nil => rfl
  | cons i is ih =>
    have hi := h s i
    have his := ih (step s i)
    rw [count, count, List.countP_cons]
    cases hf : f i with
    | false =>
      rw [hf, Bool.toNat_false] at hi
      simp only [Bool.false_eq_true, if_false]
      omega
    | true =>
      rw [hf, Bool.toNat_true] at hi
      simp only [if_true]
      omega

end Rules

end Runs
