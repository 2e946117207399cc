import SwbtDaemon.Control.Control
import SwbtDaemon.Lib.Runs

/-!
# Direct submission

`swbt_control_submit_state` takes the lock of the domain twice: once to acquire the lease and once
to set the state. Between the two, other threads may run operations of their own. Here a call is
split at this point; `Direct` is the control together with the point at which its one direct caller
stands.
-/

namespace Swbt

/-- A control and its direct caller. -/
structure Direct where
  control : Control
  /-- The state of a call that has acquired the lease and not yet set its state. -/
  pending : Option State

namespace Direct

/-- A step of the direct caller, or a locked operation of another thread. -/
inductive Event where
  /-- A call of `swbt_control_submit_state`, up to the end of `swbt_domain_acquire`. -/
  | call (state : State)
  /-- The rest of the call. -/
  | finish
  | other (op : Domain.Op)

/-- `swbt_control_submit_state` up to its first return. -/
def begin (control : Control) (state : State) : Option Control.Result × Direct :=
  let r := control.onApp (control.app.acquire Control.directClientId)
  if r.1 ≠ .ok then (some r.1, ⟨r.2, none⟩) else (none, ⟨r.2, some state⟩)

/-- `swbt_control_submit_state` after its first return. -/
def finish (control : Control) (state : State) : Control.Result × Control :=
  let control := { control with nextDirectSequence := control.nextDirectSequence + 1 }
  control.onApp
    (control.app.setState Control.directClientId state control.nextDirectSequence)

/-- A call that nothing interrupts. -/
def uninterrupted (control : Control) (state : State) : Control.Result × Control :=
  match begin control state with
  | (some result, sys) => (result, sys.control)
  | (none, sys) => finish sys.control state

/-- One step: what the direct caller is returned, if its call ends, and the system afterwards. The
caller is one thread, so that it does not call within a call. -/
def perform (sys : Direct) : Event → Option Control.Result × Direct
  | .call state =>
    match sys.pending with
    | none => begin sys.control state
    | some _ => (none, sys)
  | .finish =>
    match sys.pending with
    | none => (none, sys)
    | some state =>
      let r := finish sys.control state
      (some r.1, ⟨r.2, none⟩)
  | .other op => (none, { sys with control := { sys.control with app := sys.control.app.step op } })

/-- The system after one step. -/
def step (sys : Direct) (event : Event) : Direct := (sys.perform event).2

/-- The system at the start of the daemon over the domain `app`. -/
def init (app : Domain) (readRuntimeStatus : Option (Option RuntimeStatus)) : Direct :=
  ⟨Control.init app readRuntimeStatus, none⟩

/-- The event is a call. -/
def Event.isCall : Event → Bool
  | .call _ => true
  | _ => false

end Direct

/-- The operation is none of the direct client's: those of the IPC clients with other ids, the
revokes of a shutdown, and all that do not concern the ownership. -/
def Domain.Op.Foreign : Domain.Op → Prop
  | .acquire clientId => clientId ≠ Control.directClientId
  | .setState clientId _ _ => clientId ≠ Control.directClientId
  | .revoke .shutdown _ => True
  | .revoke _ clientId => clientId ≠ Control.directClientId
  | _ => True

/-- A step of the direct caller, or a foreign operation. -/
def Direct.Event.Allowed : Direct.Event → Prop
  | .other op => op.Foreign
  | _ => True

end Swbt
