import Mathlib.Data.List.Basic

/-!
# The lease

`domain/lease.c`: at most one client owns the controller, and the sequence number of its last
accepted update is stored beside the owner.
-/

namespace Swbt

/-- `swbt_domain_lease_t`. -/
structure Lease where
  hasOwner : Bool
  ownerClientId : UInt32
  lastSequence : UInt64
deriving DecidableEq, Repr

namespace Lease

/-- `swbt_domain_lease_result_t`. -/
inductive Result where
  | ok
  | ownerBusy
  | notOwner
deriving DecidableEq, Repr

/-- `swbt_domain_lease_init`. -/
def init : Lease := ⟨false, 0, 0⟩

/-- `swbt_domain_lease_acquire`. -/
def acquire (lease : Lease) (clientId : UInt32) : Result × Lease :=
  if lease.hasOwner && lease.ownerClientId != clientId then (.ownerBusy, lease)
  else (.ok, { lease with hasOwner := true, ownerClientId := clientId })

/-- `swbt_domain_lease_accept_sequence`. -/
def acceptSequence (lease : Lease) (clientId : UInt32) (sequence : UInt64) : Result × Lease :=
  if !lease.hasOwner || lease.ownerClientId != clientId then (.notOwner, lease)
  else (.ok, { lease with lastSequence := sequence })

/-- `swbt_domain_lease_revoke`. -/
def revoke (_ : Lease) : Lease := ⟨false, 0, 0⟩

/-- `swbt_domain_lease_release`. -/
def release (lease : Lease) (clientId : UInt32) : Result × Lease :=
  if !lease.hasOwner || lease.ownerClientId != clientId then (.notOwner, lease)
  else (.ok, lease.revoke)

/-- `swbt_domain_lease_revoke_if_owner`. -/
def revokeIfOwner (lease : Lease) (clientId : UInt32) : Bool × Lease :=
  if !lease.hasOwner || lease.ownerClientId != clientId then (false, lease)
  else (true, lease.revoke)

end Lease

end Swbt
