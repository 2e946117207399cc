import Mathlib.Data.List.Forall2
import Mathlib.Logic.Function.Iterate
import SwbtDaemon.Lib.Runs

/-!
# What a run emits

A step may emit outputs; the trace of a run is what its steps emit, in order. The rules here say
when outputs are numbered by a counter of the state, and when what a store gives out is what was
put into it, in order.
-/

namespace Runs

variable {σ ι ω : Type*}

/-- What the steps of the run from `s` over `is` emit. -/
def emitted (step : σ → ι → σ) (emit : σ → ι → List ω) : σ → List ι → List ω
  | _, [] => []
  | s, i :: is => emit s i ++ emitted step emit (step s i) is

/-- **Relation rule**: when related states stay related and emit the same at each step that meets
the guards of both systems, so it is for each run whose steps meet them. -/
theorem emitted_related {τ : Type*} {step : σ → ι → σ} {emit : σ → ι → List ω}
    {step' : τ → ι → τ} {emit' : τ → ι → List ω} {g : σ → ι → Prop} {g' : τ → ι → Prop}
    {R : σ → τ → Prop}
    (hstep : ∀ s t i, R s t → g s i → g' t i → R (step s i) (step' t i) ∧ emit s i = emit' t i)
    {s : σ} {t : τ} (h : R s t) {is : List ι} (hg : AllSteps step g s is)
    (hg' : AllSteps step' g' t is) :
    R (run step s is) (run step' t is) ∧ emitted step emit s is = emitted step' emit' t is := by
  induction is generalizing s t with
  | nil => exact ⟨h, rfl⟩
  | cons i is ih =>
    obtain ⟨hnext, hemit⟩ := hstep s t i h hg.1 hg'.1
    obtain ⟨hrun, hemitted⟩ := ih hnext hg.2 hg'.2
    refine ⟨hrun, ?_⟩
    rw [emitted, emitted, hemit, hemitted]

/-- **Simulation rule**: when each step of one system is a step of another one on the abstracted
states, with the same outputs, so is each run. -/
theorem emitted_simulation {τ : Type*} {step : σ → ι → σ} (emit : σ → ι → List ω)
    {step' : τ → ι → τ} (emit' : τ → ι → List ω) (abs : σ → τ)
    (hstep : ∀ s i, abs (step s i) = step' (abs s) i ∧ emit s i = emit' (abs s) i) (s : σ)
    (is : List ι) :
    abs (run step s is) = run step' (abs s) is ∧
      emitted step emit s is = emitted step' emit' (abs s) is := by
  have hrelated : ∀ s t i, abs s = t → True → True →
      abs (step s i) = step' t i ∧ emit s i = emit' t i := by
    rintro s t i rfl - -
    exact hstep s i
  exact emitted_related hrelated rfl (allSteps_of_forall (fun _ _ _ => trivial) s)
    (allSteps_of_forall (fun _ _ _ => trivial) (abs s))

/-- **Refinement rule**: when each step of a system is some steps of another one on the abstracted
states, of which a view shows what the step emits, so is each run. -/
theorem run_refines {τ κ : Type*} {step : σ → ι → σ} (emit : σ → ι → List ω) {step' : τ → κ → τ}
    (abs : σ → τ) (view : List κ → List ω) (hnil : view [] = [])
    (hview : ∀ ks ls, view (ks ++ ls) = view ks ++ view ls)
    (hstep : ∀ s i, ∃ ks, abs (step s i) = run step' (abs s) ks ∧ view ks = emit s i) (s : σ)
    (is : List ι) :
    ∃ ks, abs (run step s is) = run step' (abs s) ks ∧ view ks = emitted step emit s is := by
  induction is generalizing s with
  | nil => exact ⟨[], rfl, hnil⟩
  | cons i is ih =>
    obtain ⟨ks, hnext, hemit⟩ := hstep s i
    obtain ⟨ls, hrun, hemitted⟩ := ih (step s i)
    refine ⟨ks ++ ls, ?_, ?_⟩
    · rw [run_cons, hrun, hnext, run_append]
    · rw [hview, hemit, hemitted, emitted]

theorem emitted_append (step : σ → ι → σ) (emit : σ → ι → List ω) (s : σ) (is js : List ι) :
    emitted step emit s (is ++ js) =
      emitted step emit s is ++ emitted step emit (run step s is) js := by
  induction is generalizing s with
  | nil => rfl
  | cons i is ih => rw [List.cons_append, emitted, emitted, ih, run_cons, List.append_assoc]

theorem emitted_map {α : Type*} (step : σ → ι → σ) (emit : σ → ι → List ω) (f : ω → α) (s : σ)
    (is : List ι) :
    emitted step (fun s i => (emit s i).map f) s is = (emitted step emit s is).map f := by
  induction is generalizing s with
  | nil => rfl
  | cons i is ih => rw [emitted, emitted, ih, List.map_append]

theorem emitted_filter (step : σ → ι → σ) (emit : σ → ι → List ω) (p : ω → Bool) (s : σ)
    (is : List ι) :
    emitted step (fun s i => (emit s i).filter p) s is = (emitted step emit s is).filter p := by
  induction is generalizing s with
  | nil => rfl
  | cons i is ih => rw [emitted, emitted, ih, List.filter_append]

/-- Under an invariant, what a step emits may be replaced by something equal to it. -/
theorem emitted_congr {step : σ → ι → σ} {emit emit' : σ → ι → List ω} {g : σ → ι → Prop}
    {P : σ → Prop} (hstep : ∀ s i, P s → g s i → P (step s i) ∧ emit s i = emit' s i) {s : σ}
    (hs : P s) {is : List ι} (hg : AllSteps step g s is) :
    emitted step emit s is = emitted step emit' s is := by
  induction is generalizing s with
  | nil => rfl
  | cons i is ih =>
    obtain ⟨hnext, hemit⟩ := hstep s i hs hg.1
    rw [emitted, emitted, hemit, ih hnext hg.2]

/-- **History rule**: what each step keeps between the state and the outputs so far, each run
keeps. -/
theorem run_emitted_invariant {step : σ → ι → σ} {emit : σ → ι → List ω}
    {R : σ → List ω → Prop} (hstep : ∀ s xs i, R s xs → R (step s i) (xs ++ emit s i)) {s : σ}
    (h : R s []) (is : List ι) : R (run step s is) (emitted step emit s is) := by
  have hfrom : ∀ (is : List ι) (s : σ) (xs : List ω), R s xs →
      R (run step s is) (xs ++ emitted step emit s is) := by
    intro is
    induction is with
    | nil => exact fun s xs h => by simpa [emitted] using h
    | cons i is ih =>
      intro s xs h
      rw [run_cons, emitted, ← List.append_assoc]
      exact ih _ _ (hstep s xs i h)
  exact hfrom is s [] h

/-- The history rule where every step meets a guard. -/
theorem run_emitted_invariant_of_allSteps {step : σ → ι → σ} {emit : σ → ι → List ω}
    {g : σ → ι → Prop} {R : σ → List ω → Prop}
    (hstep : ∀ s xs i, g s i → R s xs → R (step s i) (xs ++ emit s i)) {s : σ} (h : R s [])
    {is : List ι} (hg : AllSteps step g s is) : R (run step s is) (emitted step emit s is) := by
  have hfrom : ∀ (is : List ι) (s : σ) (xs : List ω), AllSteps step g s is → R s xs →
      R (run step s is) (xs ++ emitted step emit s is) := by
    intro is
    induction is with
    | nil => exact fun s xs _ h => by simpa [emitted] using h
    | cons i is ih =>
      intro s xs hg h
      rw [run_cons, emitted, ← List.append_assoc]
      exact ih _ _ hg.2 (hstep s xs i hg.1 h)
  exact hfrom is s [] hg h

/-- **Output rule**: what every guarded step emits, every run of guarded steps emits. -/
theorem forall_mem_emitted {step : σ → ι → σ} {emit : σ → ι → List ω} {g : σ → ι → Prop}
    {P : σ → Prop} {Q : ω → Prop}
    (hstep : ∀ s i, P s → g s i → P (step s i) ∧ ∀ x ∈ emit s i, Q x) {s : σ} (hs : P s)
    {is : List ι} (hg : AllSteps step g s is) : ∀ x ∈ emitted step emit s is, Q x := by
  induction is generalizing s with
  | nil => exact fun x hx => absurd hx List.not_mem_nil
  | cons i is ih =>
    obtain ⟨hi, his⟩ := hg
    obtain ⟨hnext, hemit⟩ := hstep s i hs hi
    intro x hx
    rcases List.mem_append.1 hx with hnow | hlater
    · exact hemit x hnow
    · exact ih hnext his x hlater

/-! ## Numbered outputs -/

section Numbering

variable {γ : Type*} (next : γ → γ) (counted : ω → Bool) (stamp : ω → γ → Prop)

/-- Every output bears the number that the counted outputs before it have reached, from `n` on. -/
def Numbered : γ → List ω → Prop
  | _, [] => True
  | n, x :: xs => stamp x n ∧ Numbered (if counted x then next n else n) xs

variable {next counted stamp}

theorem numbered_append (n : γ) (xs ys : List ω) :
    Numbered next counted stamp n (xs ++ ys) ↔ Numbered next counted stamp n xs ∧
      Numbered next counted stamp (next^[xs.countP counted] n) ys := by
  induction xs generalizing n with
  | nil => simp [Numbered]
  | cons x xs ih =>
    rw [List.cons_append, Numbered, Numbered, ih, and_assoc, List.countP_cons]
    cases hx : counted x with
    | true => simp [Function.iterate_add_apply]
    | false => simp

/-- An output bears the number that the counted outputs before it have reached. -/
theorem Numbered.stamp_of_split {n : γ} {xs ys : List ω} {x : ω}
    (h : Numbered next counted stamp n (xs ++ x :: ys)) :
    stamp x (next^[xs.countP counted] n) :=
  ((numbered_append n xs (x :: ys)).1 h).2.1

/-- The counted outputs bear consecutive numbers. -/
theorem Numbered.stamp_of_filter {n : γ} {xs : List ω} (h : Numbered next counted stamp n xs)
    {i : Nat} {x : ω} (hx : (xs.filter counted)[i]? = some x) : stamp x (next^[i] n) := by
  induction xs generalizing n i with
  | nil => simp at hx
  | cons y ys ih =>
    obtain ⟨hy, hys⟩ := h
    cases hcounted : counted y with
    | false =>
      rw [List.filter_cons_of_neg (by simp [hcounted])] at hx
      rw [hcounted] at hys
      exact ih hys hx
    | true =>
      rw [List.filter_cons_of_pos hcounted] at hx
      rw [hcounted] at hys
      cases i with
      | zero =>
        obtain rfl := Option.some.inj hx
        exact hy
      | succ i => exact ih hys hx

/-- **Numbering rule**: when the outputs of each step are numbered from the counter of its state on
and the step takes the counter along, the outputs of a run are numbered. -/
theorem emitted_numbered {step : σ → ι → σ} {emit : σ → ι → List ω} {counter : σ → γ}
    {g : σ → ι → Prop} {P : σ → Prop}
    (hstep : ∀ s i, P s → g s i → P (step s i) ∧
      Numbered next counted stamp (counter s) (emit s i) ∧
      counter (step s i) = next^[(emit s i).countP counted] (counter s))
    {s : σ} (hs : P s) {is : List ι} (hg : AllSteps step g s is) :
    Numbered next counted stamp (counter s) (emitted step emit s is) := by
  induction is generalizing s with
  | nil => trivial
  | cons i is ih =>
    obtain ⟨hi, his⟩ := hg
    obtain ⟨hnext, hnumbered, hcounter⟩ := hstep s i hs hi
    refine (numbered_append _ _ _).2 ⟨hnumbered, ?_⟩
    rw [← hcounter]
    exact ih hnext his

end Numbering

/-! ## Stores that keep the order -/

section Order

variable {α β : Type*} {R : α → β → Prop} (le : List α → List α → Prop)

/-- **First in, first out**: when each step adds to the end of what is held and gives out from its
front, up to an order on lists, a run gives out, in order, the front of what was held and added. -/
theorem emitted_in_order (hrefl : ∀ xs, le xs xs)
    (htrans : ∀ xs ys zs, le xs ys → le ys zs → le xs zs)
    (happend : ∀ xs ys zs zs', le xs ys → le zs zs' → le (xs ++ zs) (ys ++ zs'))
    {step : σ → ι → σ} (held : σ → List α) {taken : σ → ι → List α}
    {given : σ → ι → List β} {g : σ → ι → Prop} {P : σ → Prop}
    (hstep : ∀ s i, P s → g s i → P (step s i) ∧
      ∃ front, le (front ++ held (step s i)) (held s ++ taken s i) ∧
        List.Forall₂ R front (given s i))
    {s : σ} (hs : P s) {is : List ι} (hg : AllSteps step g s is) :
    ∃ front, le (front ++ held (run step s is)) (held s ++ emitted step taken s is) ∧
      List.Forall₂ R front (emitted step given s is) := by
  induction is generalizing s with
  | nil => exact ⟨[], by simpa [emitted] using hrefl (held s), .nil⟩
  | cons i is ih =>
    obtain ⟨hi, his⟩ := hg
    obtain ⟨hnext, front, hheld, hgiven⟩ := hstep s i hs hi
    obtain ⟨front', hheld', hgiven'⟩ := ih hnext his
    refine ⟨front ++ front', ?_, List.rel_append hgiven hgiven'⟩
    have hfirst := happend _ _ _ _ hheld (hrefl (emitted step taken (step s i) is))
    have hlater := happend _ _ _ _ (hrefl front) hheld'
    rw [← List.append_assoc front (held (step s i))] at hlater
    rw [emitted, ← List.append_assoc (held s), List.append_assoc front front']
    exact htrans _ _ _ hlater hfirst

end Order

end Runs
