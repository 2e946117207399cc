import SwbtDaemon.Domain.Domain

/-!
# The control

`control/control.c`: the operations on the domain that the IPC server and the C interface share.
-/

namespace Swbt

/-- `swbt_control_runtime_status_t`. -/
structure RuntimeStatus where
  initialized : Bool
  running : Bool
  hidRegistered : Bool
  outputHandlerStarted : Bool
  reportTimerStarted : Bool
deriving DecidableEq, Repr

/-- `swbt_control_t` together with the domain it points to. -/
structure Control where
  app : Domain
  /-- The answer of `read_runtime_status`: none without a reader, `some none` when it fails. -/
  readRuntimeStatus : Option (Option RuntimeStatus)
  nextDirectSequence : UInt64

namespace Control

/-- `swbt_control_result_t`. -/
inductive Result where
  | ok
  | invalidArgument
  | ownerBusy
  | notOwner
deriving DecidableEq, Repr

/-- `swbt_control_direct_client_id`. -/
def directClientId : UInt32 := 0xFFFFFFFF

/-- `swbt_control_map_app_result`: a stale sequence is reported as success. -/
def mapAppResult : Domain.Result → Result
  | .ok => .ok
  | .staleSequence => .ok
  | .ownerBusy => .ownerBusy
  | .notOwner => .notOwner
  | .invalidArgument => .invalidArgument

/-- `swbt_control_init` over the domain `app`. -/
def init (app : Domain) (readRuntimeStatus : Option (Option RuntimeStatus)) : Control :=
  ⟨app, readRuntimeStatus, 0⟩

/-- A domain operation called through the control. -/
def onApp (control : Control) (r : Domain.Result × Domain) : Result × Control :=
  (mapAppResult r.1, { control with app := r.2 })

/-- `swbt_control_acquire_client`. -/
def acquireClient (control : Control) (clientId : UInt32) : Result × Control :=
  control.onApp (control.app.acquire clientId)

/-- `swbt_control_release_client`. -/
def releaseClient (control : Control) (clientId : UInt32) : Result × Control :=
  control.onApp (control.app.revoke .release clientId)

/-- `swbt_control_disconnect_client`. -/
def disconnectClient (control : Control) (clientId : UInt32) : Result × Control :=
  control.onApp (control.app.revoke .disconnect clientId)

/-- `swbt_control_heartbeat_timeout_client`. -/
def heartbeatTimeoutClient (control : Control) (clientId : UInt32) : Result × Control :=
  control.onApp (control.app.revoke .heartbeatTimeout clientId)

/-- `swbt_control_shutdown`. -/
def shutdown (control : Control) : Result × Control :=
  control.onApp (control.app.revoke .shutdown 0)

/-- `swbt_control_record_state_update_rejected`. -/
def recordStateUpdateRejected (control : Control) : Result × Control :=
  control.onApp (.ok, control.app.recordStateUpdateRejected)

/-- `swbt_control_submit_client_state`. -/
def submitClientState (control : Control) (clientId : UInt32) (state : State)
    (sequence : UInt64) : Result × Control :=
  control.onApp (control.app.setState clientId state sequence)

/-- `swbt_control_submit_state`: acquires the lease for the direct client first. -/
def submitState (control : Control) (state : State) : Result × Control :=
  let r := control.onApp (control.app.acquire directClientId)
  if r.1 ≠ .ok then r
  else
    let control := { r.2 with nextDirectSequence := r.2.nextDirectSequence + 1 }
    control.onApp (control.app.setState directClientId state control.nextDirectSequence)

/-- `swbt_control_submit_neutral`. -/
def submitNeutral (control : Control) : Result × Control := control.submitState State.neutral

/-- `swbt_control_status_t`: the runtime status when `has_runtime_status` is set. -/
structure Status where
  app : Domain.StatusSnapshot
  runtime : Option RuntimeStatus

/-- `swbt_control_get_status`. -/
def getStatus (control : Control) : Except Result Status :=
  match control.readRuntimeStatus with
  | none => .ok ⟨control.app.readStatus, none⟩
  | some none => .error .invalidArgument
  | some (some runtime) => .ok ⟨control.app.readStatus, some runtime⟩

end Control

end Swbt
