import SwbtDaemon.Ipc.Encode
import SwbtDaemon.Lib.Printf

/-!
# The two formats of a status response

The `SWBT_IPC_RESPONSE_STATUS` branch of `swbt_ipc_json_encode_response` as it stands in the source:
two format strings, with and without a request id, each with its own list of arguments. Before it,
the copies of the snapshot that `ipc/ipc_adapter.c` makes.
-/

namespace Swbt.Ipc

open CString Printf

/-! ## The copies of the snapshot -/

/-- `swbt_ipc_status_t`. -/
structure IpcStatus where
  hasOwner : Bool
  ownerClientId : UInt32
  lastSeq : UInt64
  state : State
  rumble : RumbleState
  metrics : Metrics.Snapshot
  daemon : DaemonStatus
  hardware : HardwareStatus

/-- `swbt_ipc_adapter_copy_app_status`. -/
def copyAppStatus (status : Domain.StatusSnapshot) : IpcStatus where
  hasOwner := status.hasOwner
  ownerClientId := status.ownerClientId
  lastSeq := status.lastSequence
  state := status.state
  rumble := status.rumble
  metrics := status.metrics
  daemon := status.daemon
  hardware := status.hardware

/-- `swbt_ipc_adapter_copy_status`. The fields of `swbt_ipc_response_status_t` are those of a
snapshot. -/
def copyStatus (status : IpcStatus) : Domain.StatusSnapshot where
  hasOwner := status.hasOwner
  ownerClientId := status.ownerClientId
  lastSequence := status.lastSeq
  state := status.state
  rumble := status.rumble
  metrics := status.metrics
  daemon := status.daemon
  hardware := status.hardware

/-! ## The formats -/

/-- The format string of a status response with a request id. -/
def statusFormatWithRequestId : List UInt8 :=
  bytes "\x7b\"v\":1,\"type\":\"status\",\"request_id\":\"%s\"," ++
  bytes "\"daemon\":\x7b\"protocol_version\":%u,\"daemon_version\":\"%s\"," ++
  bytes "\"backend\":\"%s\",\"lifecycle_state\":\"%s\"," ++
  bytes "\"hardware_approval\":\"%s\"\x7d," ++
  bytes "\"metrics\":\x7b\"hardware_status\":\"%s\"," ++
  bytes "\"report_ticks_total\":%llu,\"reports_sent_total\":%llu," ++
  bytes "\"send_failures_total\":%llu,\"report_interval_average_us\":%llu," ++
  bytes "\"report_interval_max_us\":%llu,\"ipc_state_accepted_total\":%llu," ++
  bytes "\"ipc_state_rejected_total\":%llu,\"ipc_state_coalesced_total\":%llu," ++
  bytes "\"actual_report_rate_hz\":%u,\"jitter_max_us\":%llu\x7d," ++
  bytes "\"hardware\":\x7b\"adapter_state\":\"%s\"," ++
  bytes "\"switch_connection_state\":\"%s\",\"hid_channel_state\":\"%s\"\x7d," ++
  bytes "\"owner\":\x7b\"present\":%s,\"owner_id\":\"%s\",\"last_seq\":%llu\x7d," ++
  bytes "\"state\":\x7b\"buttons\":%u,\"lx\":%u,\"ly\":%u,\"rx\":%u,\"ry\":%u," ++
  bytes "\"accel_x\":%d,\"accel_y\":%d,\"accel_z\":%d," ++
  bytes "\"gyro_x\":%d,\"gyro_y\":%d,\"gyro_z\":%d\x7d," ++
  bytes "\"rumble\":\x7b\"updated\":%s,\"last_update_ms\":%llu,\"raw\":\"%s\"\x7d\x7d\n"

/-- The format string of a status response without a request id. -/
def statusFormat : List UInt8 :=
  bytes "\x7b\"v\":1,\"type\":\"status\"," ++
  bytes "\"daemon\":\x7b\"protocol_version\":%u,\"daemon_version\":\"%s\"," ++
  bytes "\"backend\":\"%s\",\"lifecycle_state\":\"%s\"," ++
  bytes "\"hardware_approval\":\"%s\"\x7d," ++
  bytes "\"metrics\":\x7b\"hardware_status\":\"%s\"," ++
  bytes "\"report_ticks_total\":%llu,\"reports_sent_total\":%llu," ++
  bytes "\"send_failures_total\":%llu,\"report_interval_average_us\":%llu," ++
  bytes "\"report_interval_max_us\":%llu,\"ipc_state_accepted_total\":%llu," ++
  bytes "\"ipc_state_rejected_total\":%llu,\"ipc_state_coalesced_total\":%llu," ++
  bytes "\"actual_report_rate_hz\":%u,\"jitter_max_us\":%llu\x7d," ++
  bytes "\"hardware\":\x7b\"adapter_state\":\"%s\"," ++
  bytes "\"switch_connection_state\":\"%s\",\"hid_channel_state\":\"%s\"\x7d," ++
  bytes "\"owner\":\x7b\"present\":%s,\"owner_id\":\"%s\",\"last_seq\":%llu\x7d," ++
  bytes "\"state\":\x7b\"buttons\":%u,\"lx\":%u,\"ly\":%u,\"rx\":%u,\"ry\":%u," ++
  bytes "\"accel_x\":%d,\"accel_y\":%d,\"accel_z\":%d," ++
  bytes "\"gyro_x\":%d,\"gyro_y\":%d,\"gyro_z\":%d\x7d," ++
  bytes "\"rumble\":\x7b\"updated\":%s,\"last_update_ms\":%llu,\"raw\":\"%s\"\x7d\x7d\n"

variable [Platform]

/-- The arguments of the response with a request id. -/
def statusArgsWithRequestId (requestId : List UInt8) (status : Domain.StatusSnapshot)
    (ownerId rumbleRaw : List UInt8) : List Arg :=
  [.string requestId, .unsigned protocolVersion, .string Platform.versionString,
    .string (bytes (daemonBackendText status.daemon.backend)),
    .string (bytes (daemonLifecycleText status.daemon.lifecycleState)),
    .string (bytes (hardwareApprovalText status.daemon.hardwareApproval)),
    .string (bytes (hardwareStatusText status.metrics.hardwareStatus)),
    .unsignedLongLong status.metrics.reportTicks.toNat,
    .unsignedLongLong status.metrics.reportSendOk.toNat,
    .unsignedLongLong status.metrics.reportSendFailed.toNat,
    .unsignedLongLong status.metrics.reportIntervalAverageUs.toNat,
    .unsignedLongLong status.metrics.reportIntervalMaxUs.toNat,
    .unsignedLongLong status.metrics.ipcStateAccepted.toNat,
    .unsignedLongLong status.metrics.ipcStateRejected.toNat,
    .unsignedLongLong status.metrics.ipcStateCoalesced.toNat,
    .unsigned status.metrics.actualReportRateHz.toNat,
    .unsignedLongLong status.metrics.jitterMaxUs.toNat,
    .string (bytes (hardwareChannelText status.hardware.adapterState)),
    .string (bytes (hardwareChannelText status.hardware.switchConnectionState)),
    .string (bytes (hardwareChannelText status.hardware.hidChannelState)),
    .string (boolText status.hasOwner), .string ownerId,
    .unsignedLongLong status.lastSequence.toNat,
    .unsigned status.state.buttons.toNat, .unsigned status.state.lx.toNat,
    .unsigned status.state.ly.toNat, .unsigned status.state.rx.toNat,
    .unsigned status.state.ry.toNat, .int status.state.accelX.toInt,
    .int status.state.accelY.toInt, .int status.state.accelZ.toInt,
    .int status.state.gyroX.toInt, .int status.state.gyroY.toInt,
    .int status.state.gyroZ.toInt, .string (boolText status.rumble.updated),
    .unsignedLongLong status.rumble.updatedAtMs.toNat, .string rumbleRaw]

/-- The arguments of the response without a request id. -/
def statusArgs (status : Domain.StatusSnapshot) (ownerId rumbleRaw : List UInt8) : List Arg :=
  [.unsigned protocolVersion, .string Platform.versionString,
    .string (bytes (daemonBackendText status.daemon.backend)),
    .string (bytes (daemonLifecycleText status.daemon.lifecycleState)),
    .string (bytes (hardwareApprovalText status.daemon.hardwareApproval)),
    .string (bytes (hardwareStatusText status.metrics.hardwareStatus)),
    .unsignedLongLong status.metrics.reportTicks.toNat,
    .unsignedLongLong status.metrics.reportSendOk.toNat,
    .unsignedLongLong status.metrics.reportSendFailed.toNat,
    .unsignedLongLong status.metrics.reportIntervalAverageUs.toNat,
    .unsignedLongLong status.metrics.reportIntervalMaxUs.toNat,
    .unsignedLongLong status.metrics.ipcStateAccepted.toNat,
    .unsignedLongLong status.metrics.ipcStateRejected.toNat,
    .unsignedLongLong status.metrics.ipcStateCoalesced.toNat,
    .unsigned status.metrics.actualReportRateHz.toNat,
    .unsignedLongLong status.metrics.jitterMaxUs.toNat,
    .string (bytes (hardwareChannelText status.hardware.adapterState)),
    .string (bytes (hardwareChannelText status.hardware.switchConnectionState)),
    .string (bytes (hardwareChannelText status.hardware.hidChannelState)),
    .string (boolText status.hasOwner), .string ownerId,
    .unsignedLongLong status.lastSequence.toNat,
    .unsigned status.state.buttons.toNat, .unsigned status.state.lx.toNat,
    .unsigned status.state.ly.toNat, .unsigned status.state.rx.toNat,
    .unsigned status.state.ry.toNat, .int status.state.accelX.toInt,
    .int status.state.accelY.toInt, .int status.state.accelZ.toInt,
    .int status.state.gyroX.toInt, .int status.state.gyroY.toInt,
    .int status.state.gyroZ.toInt, .string (boolText status.rumble.updated),
    .unsignedLongLong status.rumble.updatedAtMs.toNat, .string rumbleRaw]

/-- What the branch prints: `none` when a conversion and its argument do not match. -/
def statusText (requestId : Option (List UInt8)) (status : Domain.StatusSnapshot) :
    Option (List UInt8) :=
  let ownerId := formatOwnerId (if status.hasOwner then status.ownerClientId else 0)
  let rumbleRaw := formatRumbleRaw status.rumble.raw
  match requestId with
  | some requestId =>
    format statusFormatWithRequestId (statusArgsWithRequestId requestId status ownerId rumbleRaw)
  | none => format statusFormat (statusArgs status ownerId rumbleRaw)

end Swbt.Ipc
