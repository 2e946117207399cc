import Mathlib.Data.List.FinRange
import Mathlib.Data.List.Nodup

/-!
# Filling an array

A loop that stores a value at one index after the other and stops at the first index it has no
value for. What it has stored before it stops stays.
-/

namespace Filling

variable {β : Type*} {n : Nat}

/-- Stores the values of `indices` in order. The flag tells whether all of them had one. -/
def fill (value : Fin n → Option β) : List (Fin n) → Vector β n → Bool × Vector β n
  | [], data => (true, data)
  | index :: indices, data =>
    match value index with
    | none => (false, data)
    | some stored => fill value indices (data.set index.val stored index.isLt)

variable (value : Fin n → Option β)

/-- The loop runs to its end when every index has a value. -/
theorem fill_fst_iff (indices : List (Fin n)) (data : Vector β n) :
    (fill value indices data).1 = true ↔ ∀ index ∈ indices, (value index).isSome := by
  induction indices generalizing data with
  | nil => simp [fill]
  | cons index indices ih =>
    rw [List.forall_mem_cons, fill]
    cases value index with
    | none => simp
    | some stored => simpa using ih (data.set index.val stored index.isLt)

/-- An index that the loop does not visit keeps its value. -/
theorem fill_of_not_mem {indices : List (Fin n)} {index : Fin n} (h : index ∉ indices)
    (data : Vector β n) : (fill value indices data).2.get index = data.get index := by
  induction indices generalizing data with
  | nil => rfl
  | cons first indices ih =>
    obtain ⟨hne, hrest⟩ : index ≠ first ∧ index ∉ indices := by simpa using h
    rw [fill]
    cases value first with
    | none => rfl
    | some stored =>
      dsimp only
      rw [ih hrest]
      exact Vector.getElem_set_ne first.isLt index.isLt (fun heq => hne (Fin.ext heq.symm))

/-- Each index that a completed loop has visited once holds its value. -/
theorem fill_of_mem {indices : List (Fin n)} (hnodup : indices.Nodup) {data : Vector β n}
    (hdone : (fill value indices data).1 = true) {index : Fin n} (h : index ∈ indices) :
    value index = some ((fill value indices data).2.get index) := by
  induction indices generalizing data with
  | nil => simp at h
  | cons first indices ih =>
    obtain ⟨hfirst, hnodup⟩ := List.nodup_cons.mp hnodup
    rw [fill] at hdone ⊢
    cases hvalue : value first with
    | none => simp [hvalue] at hdone
    | some stored =>
      rw [hvalue] at hdone
      dsimp only at hdone ⊢
      obtain rfl | hrest := List.mem_cons.mp h
      · rw [hvalue, fill_of_not_mem value hfirst]
        exact congrArg some (Vector.getElem_set_self index.isLt).symm
      · exact ih hnodup hdone hrest

/-- The loop over all indices ends with `filled` when that holds the value of every index. -/
theorem fill_finRange_iff (data filled : Vector β n) :
    fill value (List.finRange n) data = (true, filled) ↔
      ∀ index : Fin n, value index = some (filled.get index) := by
  constructor
  · intro h index
    have hdone : (fill value (List.finRange n) data).1 = true := by rw [h]
    have hvalue := fill_of_mem value (List.nodup_finRange n) hdone (List.mem_finRange index)
    rwa [h] at hvalue
  · intro h
    have hdone : (fill value (List.finRange n) data).1 = true :=
      (fill_fst_iff value _ data).mpr fun index _ => by rw [h index]; rfl
    refine Prod.ext hdone (Vector.ext fun index hindex => ?_)
    have hvalue := fill_of_mem value (List.nodup_finRange n) hdone
      (List.mem_finRange ⟨index, hindex⟩)
    rw [h ⟨index, hindex⟩] at hvalue
    exact (Option.some.inj hvalue).symm

end Filling
