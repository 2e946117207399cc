import SwbtDaemon.Domain.Domain
import SwbtDaemon.Lib.Runs
import SwbtDaemon.Lib.Tenure

/-!
# The ownership of the controller

What the lease and the controller state are for: the controller shows what the current owner last
sent in its tenure. `Domain.tenure` is the tenure that a sequence of domain operations leaves, and
`Domain.Shows` says when the stored lease and state are those of a tenure.
-/

namespace Swbt

instance uint64Preorder : Preorder UInt64 where
  le_refl := UInt64.le_refl
  le_trans _ _ _ := UInt64.le_trans
  lt_iff_le_not_ge _ _ := by
    simp only [UInt64.lt_iff_toNat_lt, UInt64.le_iff_toNat_le]
    omega

/-- The client `clientId` holds the lease. -/
def Lease.HeldBy (lease : Lease) (clientId : UInt32) : Prop :=
  lease.hasOwner = true ∧ lease.ownerClientId = clientId

namespace Domain

/-- The tenure of a client of the domain. -/
abbrev ClientTenure := Tenure UInt32 UInt64 State

/-- What an operation means for the ownership. -/
def Op.event : Op → Tenure.Event UInt32 UInt64 State
  | .acquire clientId => .claim clientId
  | .setState clientId state sequence => .submit clientId sequence state
  | .revoke .shutdown _ => .vacateAll
  | .revoke _ clientId => .vacate clientId
  | _ => .other

/-- The tenure that the operations `ops` leave, from no owner. -/
def tenure (ops : List Op) : Option ClientTenure :=
  Runs.run Tenure.step none (ops.map Op.event)

/-- The stored lease and controller state show the tenure `t`. -/
def Shows (app : Domain) : Option ClientTenure → Prop
  | none =>
    app.lease.hasOwner = false ∧ app.lease.ownerClientId = 0 ∧ app.lease.lastSequence = 0 ∧
      app.state = State.neutral
  | some t =>
    app.lease.hasOwner = true ∧ app.lease.ownerClientId = t.owner ∧
      app.lease.lastSequence = t.sequence 0 ∧ app.state = t.payload State.neutral

/-- Lease and controller state belong together: they show some tenure. -/
def Consistent (app : Domain) : Prop := ∃ t, app.Shows t

/-- Nobody but `clientId` owns the lease. -/
def OwnedAtMostBy (app : Domain) (clientId : UInt32) : Prop :=
  app.lease.hasOwner = true → app.lease.ownerClientId = clientId

/-- The operations that the requests of the client `clientId` lead to. -/
inductive Op.OfClient (clientId : UInt32) : Op → Prop where
  | acquire : Op.OfClient clientId (.acquire clientId)
  | setState (state : State) (sequence : UInt64) :
      Op.OfClient clientId (.setState clientId state sequence)
  | release : Op.OfClient clientId (.revoke .release clientId)
  | rejected : Op.OfClient clientId .recordStateUpdateRejected

end Domain

end Swbt
