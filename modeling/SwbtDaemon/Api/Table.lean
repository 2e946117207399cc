import Mathlib.Algebra.GroupWithZero.Nat
import SwbtDaemon.Api.CApi

/-!
# What a caller of the C interface knows

A table of the open handles: the state last submitted to each, neutral at first, and how many have
been. No memory, no lease and no sequence number stands in it.
-/

namespace Swbt

namespace CApi

/-- An open handle. -/
structure Entry where
  state : ControllerState
  submissions : Nat
deriving DecidableEq, Repr

/-- The open handles. -/
abbrev Table := Nat → Option Entry

/-- The state of a handle to which nothing has been submitted. -/
def neutralState : ControllerState := fromInternalState State.neutral

namespace Table

/-- One more submission to a handle. -/
def submit (table : Table) (swbt : Nat) (state : ControllerState) : Table :=
  Function.update table swbt ((table swbt).map fun entry => ⟨state, entry.submissions + 1⟩)

/-- The open handles after a call. -/
def step (table : Table) : Call → Table
  | .openHandle true (some swbt) (some _) => Function.update table swbt (some ⟨neutralState, 0⟩)
  | .close (some swbt) => Function.update table swbt none
  | .submitState (some swbt) (some state) => table.submit swbt state
  | .submitNeutral (some swbt) => table.submit swbt neutralState
  | _ => table

/-- What a call answers: an error is a `NULL` pointer or a lack of memory. -/
def answer (table : Table) : Call → Answer
  | .openHandle false _ _ => .opened .invalidArgument none
  | .openHandle true (some swbt) (some _) => .opened .ok (some (some swbt))
  | .openHandle true _ _ => .opened .noMemory (some none)
  | .close _ => .closed
  | .submitState (some _) (some _) => .submitted .ok
  | .submitState _ _ => .submitted .invalidArgument
  | .submitNeutral (some _) => .submitted .ok
  | .submitNeutral none => .submitted .invalidArgument
  | .getStatus (some swbt) true =>
    .told .ok ((table swbt).map fun entry => ⟨entry.state, false, false⟩)
  | .getStatus _ _ => .told .invalidArgument none

/-- What a call emits. -/
def emit (table : Table) (call : Call) : List (Option Answer) := [some (table.answer call)]

/-- The pointer is `NULL` or an open handle that has taken fewer than `2 ^ 64 - 1` submissions. -/
def Takes (table : Table) (swbt : Option Nat) : Prop :=
  ∀ a, swbt = some a → ∃ entry, table a = some entry ∧ entry.submissions + 1 < 2 ^ 64

/-- The pointer is `NULL` or an open handle. -/
def Knows (table : Table) (swbt : Option Nat) : Prop :=
  ∀ a, swbt = some a → ∃ entry, table a = some entry

/-- What callers promise: they use handles that are open. -/
def Permitted (table : Table) : Call → Prop
  | .openHandle _ _ _ => True
  | .close swbt => table.Knows swbt
  | .submitState swbt _ => table.Takes swbt
  | .submitNeutral swbt => table.Takes swbt
  | .getStatus swbt _ => table.Knows swbt

end Table

end CApi

end Swbt
