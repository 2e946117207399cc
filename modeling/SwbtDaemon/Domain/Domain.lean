import SwbtDaemon.Domain.Lease
import SwbtDaemon.Support.Metrics
import SwbtDaemon.Switch.Subcommand

/-!
# The domain

`domain/domain.c`: the one record that all threads of the daemon share. Every operation takes the
lock for its whole body, so that an execution is a sequence of operations; `Op` names them and
`step` is one of them.
-/

namespace Swbt

/-! ## Status records -/

/-- `swbt_domain_daemon_backend_t`. -/
inductive DaemonBackend where
  | unknown
  | noop
  | production
deriving DecidableEq, Repr

/-- `swbt_domain_daemon_lifecycle_state_t`. -/
inductive DaemonLifecycle where
  | unavailable
  | stopped
  | running
deriving DecidableEq, Repr

/-- `swbt_domain_hardware_approval_t`. -/
inductive HardwareApproval where
  | unavailable
  | approved
deriving DecidableEq, Repr

/-- `swbt_domain_hardware_channel_state_t`. -/
inductive HardwareChannel where
  | unavailable
  | failed
deriving DecidableEq, Repr

/-- `swbt_domain_daemon_status_t`. -/
structure DaemonStatus where
  backend : DaemonBackend
  lifecycleState : DaemonLifecycle
  hardwareApproval : HardwareApproval
deriving DecidableEq, Repr

/-- `swbt_domain_daemon_status_default`. -/
def DaemonStatus.default : DaemonStatus := ⟨.unknown, .stopped, .unavailable⟩

/-- `swbt_domain_hardware_status_t`. -/
structure HardwareStatus where
  adapterState : HardwareChannel
  switchConnectionState : HardwareChannel
  hidChannelState : HardwareChannel
deriving DecidableEq, Repr

/-- `swbt_domain_hardware_status_default`. -/
def HardwareStatus.default : HardwareStatus := ⟨.unavailable, .unavailable, .unavailable⟩

/-! ## The record and its operations -/

/-- `swbt_domain_t`, without its lock. -/
structure Domain where
  lease : Lease
  state : State
  metrics : Metrics
  daemon : DaemonStatus
  hardware : HardwareStatus
  rumble : RumbleState
  spi : Spi.Flash
  playerLights : PlayerLights

namespace Domain

/-- `swbt_domain_result_t`. -/
inductive Result where
  | ok
  | invalidArgument
  | ownerBusy
  | notOwner
  | staleSequence
deriving DecidableEq, Repr

/-- `swbt_domain_revoke_reason_t`. -/
inductive RevokeReason where
  | release
  | disconnect
  | heartbeatTimeout
  | shutdown
deriving DecidableEq, Repr

/-- `swbt_domain_map_lease_result`. -/
def mapLeaseResult : Lease.Result → Result
  | .ok => .ok
  | .ownerBusy => .ownerBusy
  | .notOwner => .notOwner

/-- The record that `swbt_domain_init` fills when the SPI seed is written to `spi`. -/
def initWith (spi : Spi.Flash) : Domain where
  lease := Lease.init
  state := State.neutral
  metrics := Metrics.init
  daemon := DaemonStatus.default
  hardware := HardwareStatus.default
  rumble := RumbleState.init
  spi := spi
  playerLights := PlayerLights.init

/-- `swbt_domain_init`: it fails when the SPI seed profile is refused. -/
def init : Except Result Domain :=
  match Spi.seedApply Spi.init Spi.seedDevProfile with
  | .error _ => .error .invalidArgument
  | .ok spi => .ok (initWith spi)

/-- `swbt_domain_apply_neutral`. -/
def applyNeutral (app : Domain) : Domain := { app with state := State.neutral }

/-- `swbt_domain_revoke_all`. -/
def revokeAll (app : Domain) : Domain := applyNeutral { app with lease := app.lease.revoke }

/-- `swbt_domain_record_state_update_rejected`, and its `_locked` body. -/
def recordStateUpdateRejected (app : Domain) : Domain :=
  { app with metrics := app.metrics.recordStateUpdateRejected }

/-- `swbt_domain_acquire`. -/
def acquire (app : Domain) (clientId : UInt32) : Result × Domain :=
  let r := app.lease.acquire clientId
  (mapLeaseResult r.1, { app with lease := r.2 })

/-- `swbt_domain_set_state`. -/
def setState (app : Domain) (clientId : UInt32) (state : State) (sequence : UInt64) :
    Result × Domain :=
  if !app.lease.hasOwner || app.lease.ownerClientId != clientId then
    (.notOwner, app.recordStateUpdateRejected)
  else if sequence < app.lease.lastSequence then
    (.staleSequence, app.recordStateUpdateRejected)
  else
    let r := app.lease.acceptSequence clientId sequence
    if mapLeaseResult r.1 ≠ .ok then
      (mapLeaseResult r.1, { app with lease := r.2 }.recordStateUpdateRejected)
    else
      (.ok, { app with
        lease := r.2
        state := state
        metrics := app.metrics.recordStateUpdateAccepted 0 })

/-- `swbt_domain_revoke`. -/
def revoke (app : Domain) (reason : RevokeReason) (clientId : UInt32) : Result × Domain :=
  match reason with
  | .release =>
    let r := app.lease.release clientId
    if r.1 ≠ .ok then (.notOwner, { app with lease := r.2 })
    else (.ok, applyNeutral { app with lease := r.2 })
  | .disconnect | .heartbeatTimeout =>
    let r := app.lease.revokeIfOwner clientId
    if r.1 then (.ok, applyNeutral { app with lease := r.2 })
    else (.ok, { app with lease := r.2 })
  | .shutdown => (.ok, revokeAll app)

/-- `swbt_domain_status_snapshot_t`. -/
structure StatusSnapshot where
  hasOwner : Bool
  ownerClientId : UInt32
  lastSequence : UInt64
  state : State
  rumble : RumbleState
  metrics : Metrics.Snapshot
  daemon : DaemonStatus
  hardware : HardwareStatus

/-- `swbt_domain_read_controller_state`. -/
def readControllerState (app : Domain) : State := app.state

/-- `swbt_domain_read_status`. -/
def readStatus (app : Domain) : StatusSnapshot where
  hasOwner := app.lease.hasOwner
  ownerClientId := app.lease.ownerClientId
  lastSequence := app.lease.lastSequence
  state := app.state
  rumble := app.rumble
  metrics := app.metrics.snapshot
  daemon := app.daemon
  hardware := app.hardware

/-- `swbt_domain_set_daemon_status`. -/
def setDaemonStatus (app : Domain) (status : DaemonStatus) : Result × Domain :=
  (.ok, { app with daemon := status })

/-- `swbt_domain_set_daemon_lifecycle`. -/
def setDaemonLifecycle (app : Domain) (lifecycle : DaemonLifecycle) : Result × Domain :=
  (.ok, { app with daemon := { app.daemon with lifecycleState := lifecycle } })

/-- `swbt_domain_set_hardware_approval`. -/
def setHardwareApproval (app : Domain) (approval : HardwareApproval) : Result × Domain :=
  (.ok, { app with daemon := { app.daemon with hardwareApproval := approval } })

/-- `swbt_domain_set_hardware_status`. -/
def setHardwareStatus (app : Domain) (status : HardwareStatus) : Result × Domain :=
  (.ok, { app with hardware := status })

/-- `swbt_domain_record_report_tick`. -/
def recordReportTick (app : Domain) (nowUs : UInt64) (sendResult : Metrics.ReportSendResult) :
    Result × Domain :=
  match app.metrics.recordReportTick nowUs sendResult with
  | none => (.invalidArgument, app)
  | some metrics => (.ok, { app with metrics := metrics })

/-- `swbt_domain_record_rumble`. -/
def recordRumble (app : Domain) (payload : Vector UInt8 rumbleDataSize) (updatedAtMs : UInt64) :
    Result × Domain :=
  (.ok, { app with rumble := app.rumble.update payload updatedAtMs })

/-- `swbt_domain_handle_output_report`: the result, the response and the domain afterwards. -/
def handleOutputReport (app : Domain) (outputReport : OutputReport)
    (reportOptions : ReportOptions) (deviceInfo : DeviceInfo) (updatedAtMs : UInt64) :
    Result × DispatchResponse × Domain :=
  let r := dispatch ⟨app.state, reportOptions, app.spi, deviceInfo⟩ app.playerLights outputReport
  (if r.1 = .ok then .ok else .invalidArgument, r.2.1,
    { app with
      rumble := app.rumble.update outputReport.rumble updatedAtMs
      playerLights := r.2.2 })

/-! ## Executions -/

/-- One call of a domain operation, with its arguments. -/
inductive Op where
  | acquire (clientId : UInt32)
  | setState (clientId : UInt32) (state : State) (sequence : UInt64)
  | revoke (reason : RevokeReason) (clientId : UInt32)
  | readControllerState
  | readStatus
  | setDaemonStatus (status : DaemonStatus)
  | setDaemonLifecycle (lifecycle : DaemonLifecycle)
  | setHardwareApproval (approval : HardwareApproval)
  | setHardwareStatus (status : HardwareStatus)
  | recordReportTick (nowUs : UInt64) (sendResult : Metrics.ReportSendResult)
  | recordStateUpdateRejected
  | recordRumble (payload : Vector UInt8 rumbleDataSize) (updatedAtMs : UInt64)
  | handleOutputReport (outputReport : OutputReport) (reportOptions : ReportOptions)
      (deviceInfo : DeviceInfo) (updatedAtMs : UInt64)

/-- The result code of an operation and the domain after it. -/
def perform (app : Domain) : Op → Result × Domain
  | .acquire clientId => app.acquire clientId
  | .setState clientId state sequence => app.setState clientId state sequence
  | .revoke reason clientId => app.revoke reason clientId
  | .readControllerState => (.ok, app)
  | .readStatus => (.ok, app)
  | .setDaemonStatus status => app.setDaemonStatus status
  | .setDaemonLifecycle lifecycle => app.setDaemonLifecycle lifecycle
  | .setHardwareApproval approval => app.setHardwareApproval approval
  | .setHardwareStatus status => app.setHardwareStatus status
  | .recordReportTick nowUs sendResult => app.recordReportTick nowUs sendResult
  | .recordStateUpdateRejected => (.ok, app.recordStateUpdateRejected)
  | .recordRumble payload updatedAtMs => app.recordRumble payload updatedAtMs
  | .handleOutputReport outputReport reportOptions deviceInfo updatedAtMs =>
    let r := app.handleOutputReport outputReport reportOptions deviceInfo updatedAtMs
    (r.1, r.2.2)

/-- The domain after one operation. -/
def step (app : Domain) (op : Op) : Domain := (app.perform op).2

end Domain

end Swbt
