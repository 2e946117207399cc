import Mathlib.Data.List.GetD
import Mathlib.Data.List.Pairwise
import Mathlib.Data.List.Perm.Basic

/-!
# Patches of a memory

Writing runs of values into a memory indexed by the natural numbers. Writes that cover no common
address can be done in any order, and each covered address holds the value of its own write.
-/

namespace Patches

variable {β : Type}

/-- A run of values to be written from an address on. -/
structure Patch (β : Type) where
  start : Nat
  bytes : List β

/-- The addresses of a range. -/
def Covers (start length address : Nat) : Prop := start ≤ address ∧ address < start + length

instance (start length address : Nat) : Decidable (Covers start length address) :=
  inferInstanceAs (Decidable (_ ∧ _))

/-- The addresses that a patch writes. -/
def Patch.Covers (p : Patch β) (address : Nat) : Prop :=
  Patches.Covers p.start p.bytes.length address

/-- Two ranges without a common address. -/
def Disjoint (start length start' length' : Nat) : Prop :=
  ∀ address, ¬ (Covers start length address ∧ Covers start' length' address)

/-- Two patches without a common address. -/
def Patch.Disjoint (p q : Patch β) : Prop :=
  Patches.Disjoint p.start p.bytes.length q.start q.bytes.length

/-- Ranges with an address each are disjoint when one ends before the other starts. -/
theorem disjoint_iff {start length start' length' : Nat} (h : 0 < length) (h' : 0 < length') :
    Disjoint start length start' length' ↔
      start + length ≤ start' ∨ start' + length' ≤ start := by
  unfold Disjoint Covers
  constructor
  · intro hdisjoint
    have hleft := hdisjoint start
    have hright := hdisjoint start'
    omega
  · intro hapart address
    omega

theorem Disjoint.symm {start length start' length' : Nat}
    (h : Disjoint start length start' length') : Disjoint start' length' start length :=
  fun address hboth => h address hboth.symm

theorem Patch.Disjoint.symm {p q : Patch β} (h : p.Disjoint q) : q.Disjoint p :=
  Patches.Disjoint.symm h

/-! ## One write -/

/-- The memory after the write of a patch. -/
def Patch.write (memory : Nat → β) (p : Patch β) : Nat → β := fun address =>
  if p.start ≤ address then p.bytes.getD (address - p.start) (memory address) else memory address

theorem write_of_not_covers (memory : Nat → β) {p : Patch β} {address : Nat}
    (h : ¬ p.Covers address) : p.write memory address = memory address := by
  unfold Patch.Covers Covers at h
  unfold Patch.write
  split_ifs with hstart
  · rw [List.getD_eq_default _ _ (by omega)]
  · rfl

theorem write_of_covers (memory : Nat → β) {p : Patch β} {address : Nat} (h : p.Covers address) :
    p.bytes[address - p.start]? = some (p.write memory address) := by
  unfold Patch.Covers Covers at h
  have hlt : address - p.start < p.bytes.length := by omega
  rw [Patch.write, if_pos h.1, List.getD_eq_getElem _ _ hlt, List.getElem?_eq_getElem hlt]

theorem write_comm (memory : Nat → β) {p q : Patch β} (h : p.Disjoint q) :
    q.write (p.write memory) = p.write (q.write memory) := by
  funext address
  have hapart := h address
  by_cases hp : p.Covers address
  · have hq : ¬ q.Covers address := fun hq => hapart ⟨hp, hq⟩
    have hwritten := write_of_covers memory hp
    rw [write_of_covers (q.write memory) hp] at hwritten
    rw [write_of_not_covers _ hq, Option.some.inj hwritten]
  · rw [write_of_not_covers (q.write memory) hp]
    by_cases hq : q.Covers address
    · have hwritten := write_of_covers memory hq
      rw [write_of_covers (p.write memory) hq] at hwritten
      exact Option.some.inj hwritten
    · rw [write_of_not_covers _ hq, write_of_not_covers _ hq, write_of_not_covers _ hp]

/-! ## A list of writes -/

/-- The memory after the writes of a list of patches. -/
def writeAll (memory : Nat → β) (ps : List (Patch β)) : Nat → β := ps.foldl Patch.write memory

@[simp] theorem writeAll_nil (memory : Nat → β) : writeAll memory [] = memory := rfl

@[simp] theorem writeAll_cons (memory : Nat → β) (p : Patch β) (ps : List (Patch β)) :
    writeAll memory (p :: ps) = writeAll (p.write memory) ps := rfl

theorem writeAll_of_not_covers {ps : List (Patch β)} {address : Nat} :
    ∀ memory : Nat → β, (∀ p ∈ ps, ¬ p.Covers address) →
      writeAll memory ps address = memory address := by
  induction ps with
  | nil => exact fun _ _ => rfl
  | cons p ps ih =>
    intro memory h
    rw [writeAll_cons, ih _ fun q hq => h q (List.mem_cons_of_mem _ hq),
      write_of_not_covers _ (h p List.mem_cons_self)]

/-- An address that one of pairwise disjoint patches covers holds the value of this patch. -/
theorem writeAll_of_covers {ps : List (Patch β)} :
    ∀ memory : Nat → β, ps.Pairwise Patch.Disjoint → ∀ p ∈ ps, ∀ address, p.Covers address →
      p.bytes[address - p.start]? = some (writeAll memory ps address) := by
  induction ps with
  | nil => exact fun _ _ p hp => absurd hp List.not_mem_nil
  | cons q ps ih =>
    intro memory hpairwise p hp address hcovers
    obtain ⟨hq, hps⟩ := List.pairwise_cons.1 hpairwise
    rcases List.mem_cons.1 hp with rfl | hp
    · have hrest : ∀ r ∈ ps, ¬ r.Covers address := fun r hr hr' => hq r hr address ⟨hcovers, hr'⟩
      rw [writeAll_cons, writeAll_of_not_covers _ hrest]
      exact write_of_covers memory hcovers
    · exact ih (q.write memory) hps p hp address hcovers

/-- Pairwise disjoint patches can be written in any order. -/
theorem writeAll_perm (memory : Nat → β) {ps qs : List (Patch β)} (hperm : ps.Perm qs)
    (hpairwise : ps.Pairwise Patch.Disjoint) : writeAll memory ps = writeAll memory qs := by
  induction hperm generalizing memory with
  | nil => rfl
  | cons p _ ih =>
    rw [writeAll_cons, writeAll_cons, ih _ hpairwise.of_cons]
  | swap p q ps =>
    have hdisjoint : q.Disjoint p := (List.pairwise_cons.1 hpairwise).1 p List.mem_cons_self
    simp only [writeAll_cons, write_comm memory hdisjoint]
  | trans hfirst _ ih ih' =>
    rw [ih memory hpairwise, ih' memory ((hfirst.pairwise_iff Patch.Disjoint.symm).1 hpairwise)]

end Patches
