import Mathlib.Data.List.Basic
import Mathlib.Data.Nat.ModEq

/-!
# Ring buffers

The elements of a ring buffer of `n` slots are the `count` slots from `head` on, modulo `n`. The
lemmas say what writing behind the last element and moving the head do to this window.
-/

namespace Ring

variable {α : Type*} {n : Nat}

/-- The slot `k` places after `head`. -/
def slot (head : Fin n) (k : Nat) : Fin n := ⟨(head.val + k) % n, Nat.mod_lt _ head.pos⟩

/-- The `count` elements from `head` on. -/
def window (items : Vector α n) (head : Fin n) (count : Nat) : List α :=
  (List.range count).map fun k => items[slot head k]

theorem slot_zero (head : Fin n) : slot head 0 = head := by
  apply Fin.ext
  simp [slot, Nat.mod_eq_of_lt head.isLt]

theorem slot_slot_one (head : Fin n) (k : Nat) : slot (slot head 1) k = slot head (k + 1) := by
  apply Fin.ext
  simp only [slot, Nat.mod_add_mod]
  congr 1
  omega

/-- Less than one round apart, different distances are different slots. -/
theorem slot_ne (head : Fin n) {i j : Nat} (hi : i < n) (hj : j < n) (hij : i ≠ j) :
    slot head i ≠ slot head j := by
  intro h
  have hmod : (head.val + i) % n = (head.val + j) % n := congrArg Fin.val h
  have hcancel : i % n = j % n := Nat.ModEq.add_left_cancel' head.val hmod
  rw [Nat.mod_eq_of_lt hi, Nat.mod_eq_of_lt hj] at hcancel
  exact hij hcancel

/-- The first element is the one at the head. -/
theorem window_succ (items : Vector α n) (head : Fin n) (count : Nat) :
    window items head (count + 1) = items[head] :: window items (slot head 1) count := by
  simp only [window, List.range_succ_eq_map, List.map_cons, List.map_map, slot_zero]
  congr 1
  apply List.map_congr_left
  intro k _
  simp [slot_slot_one]

/-- A slot outside the window can be written freely. -/
theorem window_set_of_ne {items : Vector α n} {head i : Fin n} {count : Nat} (x : α)
    (h : ∀ k < count, slot head k ≠ i) :
    window (items.set i x) head count = window items head count := by
  unfold window
  apply List.map_congr_left
  intro k hk
  have hne : i.val ≠ (slot head k).val := fun heq =>
    h k (List.mem_range.1 hk) (Fin.ext heq.symm)
  simp [hne]

/-- Writing behind the last element appends. -/
theorem window_push {items : Vector α n} {head : Fin n} {count : Nat} (h : count < n) (x : α) :
    window (items.set (slot head count) x) head (count + 1) = window items head count ++ [x] := by
  have hold : window (items.set (slot head count) x) head count = window items head count :=
    window_set_of_ne x fun k hk => slot_ne head (by omega) h (by omega)
  have hsplit : ∀ items : Vector α n, window items head (count + 1) =
      window items head count ++ [items[slot head count]] := by
    intro items
    simp [window, List.range_succ]
  rw [hsplit, hold]
  simp

/-- Moving the head drops the first element, whatever is left in its slot. -/
theorem window_pop (items : Vector α n) (head : Fin n) {count : Nat} (h : count < n) (x : α) :
    window (items.set head x) (slot head 1) count = (window items head (count + 1)).tail := by
  rw [window_succ, List.tail_cons]
  refine window_set_of_ne x fun k hk => ?_
  rw [slot_slot_one]
  have hne : slot head (k + 1) ≠ slot head 0 := slot_ne head (by omega) (by omega) (by omega)
  rwa [slot_zero] at hne

end Ring
