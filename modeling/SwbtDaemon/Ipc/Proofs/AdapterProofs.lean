import SwbtDaemon.Domain.Proofs.OwnershipProofs
import SwbtDaemon.Ipc.Adapter

/-!
# Proofs: what a request does to the domain

A request line leads to at most one domain operation, and this operation is one of the client that
sent the line.
-/

namespace Swbt

open Ipc

namespace Control

/-- The control after the domain operation `op`. -/
def stepApp (control : Control) (op : Domain.Op) : Control :=
  { control with app := control.app.step op }

end Control

namespace Ipc

variable {control : Control} {clientId : UInt32}

/-- The control `after` is `control` after at most one operation of the client `clientId`. -/
def ByClient (control : Control) (clientId : UInt32) (after : Control) : Prop :=
  after = control ∨ ∃ op, Domain.Op.OfClient clientId op ∧ after = control.stepApp op

theorem byClient_of_op {op : Domain.Op} (h : Domain.Op.OfClient clientId op) :
    ByClient control clientId (control.stepApp op) :=
  Or.inr ⟨op, h, rfl⟩

theorem executeCommand_byClient (control : Control) (clientId : UInt32) (command : Command) :
    ByClient control clientId (executeCommand control clientId command).2 := by
  unfold executeCommand
  cases command.type with
  | none => exact Or.inl rfl
  | hello => exact Or.inl rfl
  | acquire =>
    have h : ByClient control clientId (control.acquireClient clientId).2 :=
      byClient_of_op .acquire
    dsimp only
    split <;> exact h
  | release =>
    have h : ByClient control clientId (control.releaseClient clientId).2 :=
      byClient_of_op .release
    dsimp only
    split
    · exact Or.inl rfl
    · split <;> exact h
  | setState =>
    have h : ByClient control clientId
        (control.submitClientState clientId command.state command.sequence).2 :=
      byClient_of_op (.setState command.state command.sequence)
    dsimp only
    split
    · exact byClient_of_op .rejected
    · split <;> exact h
  | getStatus =>
    dsimp only
    split <;> exact Or.inl rfl

/-- A request line leads to at most one operation, of the client that sent it. -/
theorem handleLine_byClient [Platform] (control : Control) (clientId : UInt32)
    (line : List UInt8) (responseSize : Nat) :
    ByClient control clientId (handleLine control clientId line responseSize).2 := by
  unfold handleLine
  split
  · exact Or.inl rfl
  · split
    · exact Or.inl rfl
    · exact executeCommand_byClient control clientId _

theorem ByClient.consistent {after : Control} (h : ByClient control clientId after)
    (hc : control.app.Consistent) : after.app.Consistent := by
  rcases h with rfl | ⟨op, -, rfl⟩
  · exact hc
  · exact hc.step op

theorem ByClient.ownedAtMostBy {after : Control} (h : ByClient control clientId after)
    (ho : control.app.OwnedAtMostBy clientId) : after.app.OwnedAtMostBy clientId := by
  rcases h with rfl | ⟨op, hop, rfl⟩
  · exact ho
  · exact ho.step_ofClient hop

end Ipc

end Swbt
