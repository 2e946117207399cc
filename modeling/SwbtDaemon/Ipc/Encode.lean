import SwbtDaemon.Domain.Domain
import SwbtDaemon.Ipc.Json

/-!
# Encoding a response

The writer half of `ipc/ipc_json.c`. A response is written whole into a buffer of a given size, or
not at all. The texts between the values are those of the format strings of the source.
-/

namespace Swbt.Ipc

open CString

/-- `SWBT_IPC_JSON_RESPONSE_MAX`. -/
def jsonResponseMax : Nat := 2048

/-- `SWBT_IPC_PROTOCOL_VERSION`. -/
def protocolVersion : Nat := 1

/-- The errors of `swbt_ipc_json_result_t`. -/
inductive JsonError where
  | invalidArgument
  | responseTooSmall
deriving DecidableEq, Repr

/-- `swbt_ipc_response_type_t`, each type with the fields of `swbt_ipc_response_t` it uses. -/
inductive ResponseBody where
  | none
  | helloOk (clientId : UInt32)
  | acquired (ownerClientId : UInt32)
  | released
  | stateAccepted (sequence : UInt64)
  | status (status : Domain.StatusSnapshot)
  | error (errorCode : ErrorCode) (errorMessage : List UInt8)

/-- `swbt_ipc_response_t`. -/
structure Response where
  requestId : Option (List UInt8)
  body : ResponseBody

/-- The typed response that `set_error` fills. -/
def ErrorResponse.toResponse (e : ErrorResponse) : Response :=
  ⟨e.requestId, .error e.errorCode e.errorMessage⟩

/-- `swbt_json_write`: the text must be shorter than the buffer. -/
def jsonWrite (responseSize : Nat) (text : List UInt8) : Except JsonError (List UInt8) :=
  if text.length ≥ responseSize then .error .responseTooSmall else .ok text

/-- `swbt_ipc_format_owner_id`. -/
def formatOwnerId (clientId : UInt32) : List UInt8 :=
  (List.range ownerIdHexSize).map fun index =>
    hexDigit ((clientId.toNat >>> ((ownerIdHexSize - 1 - index) * 4)) &&& 0x0F)

/-- `swbt_ipc_format_rumble_raw`. -/
def formatRumbleRaw (raw : Vector UInt8 rumbleDataSize) : List UInt8 :=
  raw.toList.flatMap fun b => [hexDigit ((b.toNat >>> 4) &&& 0x0F), hexDigit (b.toNat &&& 0x0F)]

/-- `swbt_ipc_json_text_can_be_written_raw`. -/
def textCanBeWrittenRaw (text : List UInt8) : Bool :=
  text.all fun c => !(c == 0x22 || c == 0x5C || c < 0x20)

/-- `swbt_ipc_json_error_code_text`. -/
def errorCodeText : ErrorCode → String
  | .invalidJson => "invalid_json"
  | .invalidVersion => "invalid_version"
  | .unsupportedCommand => "unsupported_command"
  | .ownerBusy => "owner_busy"
  | .notOwner => "not_owner"
  | .invalidState => "invalid_state"
  | .internalError => "internal_error"

/-- `swbt_ipc_json_hardware_status_text`. -/
def hardwareStatusText : Metrics.HardwareStatus → String
  | .unavailable => "unavailable"
  | .observed => "observed"

/-- `swbt_ipc_json_daemon_backend_text`. -/
def daemonBackendText : DaemonBackend → String
  | .unknown => "unknown"
  | .noop => "noop"
  | .production => "production"

/-- `swbt_ipc_json_daemon_lifecycle_text`. -/
def daemonLifecycleText : DaemonLifecycle → String
  | .unavailable => "unavailable"
  | .stopped => "stopped"
  | .running => "running"

/-- `swbt_ipc_json_hardware_approval_text`. -/
def hardwareApprovalText : HardwareApproval → String
  | .unavailable => "unavailable"
  | .approved => "approved"

/-- `swbt_ipc_json_hardware_channel_text`. -/
def hardwareChannelText : HardwareChannel → String
  | .unavailable => "unavailable"
  | .failed => "failed"

/-- The start of every response: the version, the type and, when there is one, the request id. -/
def responseHead (type : String) (requestId : Option (List UInt8)) : List UInt8 :=
  bytes "\x7b\"v\":1,\"type\":\"" ++ bytes type ++ bytes "\"" ++
    match requestId with
    | none => []
    | some id => bytes ",\"request_id\":\"" ++ id ++ bytes "\""

/-- A string member after the first ones. -/
def stringMember (name : String) (text : List UInt8) : List UInt8 :=
  bytes ",\"" ++ bytes name ++ bytes "\":\"" ++ text ++ bytes "\""

/-- The end of every response. -/
def responseTail : List UInt8 := bytes "\x7d\n"

/-- The text of a Boolean. -/
def boolText (b : Bool) : List UInt8 := bytes (if b then "true" else "false")

/-- The `daemon` member of a status response. -/
def statusDaemon [Platform] (daemon : DaemonStatus) : List UInt8 :=
  bytes ",\"daemon\":\x7b\"protocol_version\":" ++ printUnsigned protocolVersion ++
    bytes ",\"daemon_version\":\"" ++ Platform.versionString ++
    bytes "\",\"backend\":\"" ++ bytes (daemonBackendText daemon.backend) ++
    bytes "\",\"lifecycle_state\":\"" ++ bytes (daemonLifecycleText daemon.lifecycleState) ++
    bytes "\",\"hardware_approval\":\"" ++ bytes (hardwareApprovalText daemon.hardwareApproval) ++
    bytes "\"\x7d"

/-- The `metrics` member of a status response. -/
def statusMetrics (metrics : Metrics.Snapshot) : List UInt8 :=
  bytes ",\"metrics\":\x7b\"hardware_status\":\"" ++
    bytes (hardwareStatusText metrics.hardwareStatus) ++
    bytes "\",\"report_ticks_total\":" ++ printUnsigned metrics.reportTicks.toNat ++
    bytes ",\"reports_sent_total\":" ++ printUnsigned metrics.reportSendOk.toNat ++
    bytes ",\"send_failures_total\":" ++ printUnsigned metrics.reportSendFailed.toNat ++
    bytes ",\"report_interval_average_us\":" ++
      printUnsigned metrics.reportIntervalAverageUs.toNat ++
    bytes ",\"report_interval_max_us\":" ++ printUnsigned metrics.reportIntervalMaxUs.toNat ++
    bytes ",\"ipc_state_accepted_total\":" ++ printUnsigned metrics.ipcStateAccepted.toNat ++
    bytes ",\"ipc_state_rejected_total\":" ++ printUnsigned metrics.ipcStateRejected.toNat ++
    bytes ",\"ipc_state_coalesced_total\":" ++ printUnsigned metrics.ipcStateCoalesced.toNat ++
    bytes ",\"actual_report_rate_hz\":" ++ printUnsigned metrics.actualReportRateHz.toNat ++
    bytes ",\"jitter_max_us\":" ++ printUnsigned metrics.jitterMaxUs.toNat ++
    bytes "\x7d"

/-- The `hardware` member of a status response. -/
def statusHardware (hardware : HardwareStatus) : List UInt8 :=
  bytes ",\"hardware\":\x7b\"adapter_state\":\"" ++
    bytes (hardwareChannelText hardware.adapterState) ++
    bytes "\",\"switch_connection_state\":\"" ++
    bytes (hardwareChannelText hardware.switchConnectionState) ++
    bytes "\",\"hid_channel_state\":\"" ++ bytes (hardwareChannelText hardware.hidChannelState) ++
    bytes "\"\x7d"

/-- The `owner` member of a status response. -/
def statusOwner (hasOwner : Bool) (ownerClientId : UInt32) (lastSequence : UInt64) : List UInt8 :=
  bytes ",\"owner\":\x7b\"present\":" ++ boolText hasOwner ++
    bytes ",\"owner_id\":\"" ++ formatOwnerId (if hasOwner then ownerClientId else 0) ++
    bytes "\",\"last_seq\":" ++ printUnsigned lastSequence.toNat ++ bytes "\x7d"

/-- The `state` member of a status response. -/
def statusState (state : State) : List UInt8 :=
  bytes ",\"state\":\x7b\"buttons\":" ++ printUnsigned state.buttons.toNat ++
    bytes ",\"lx\":" ++ printUnsigned state.lx.toNat ++
    bytes ",\"ly\":" ++ printUnsigned state.ly.toNat ++
    bytes ",\"rx\":" ++ printUnsigned state.rx.toNat ++
    bytes ",\"ry\":" ++ printUnsigned state.ry.toNat ++
    bytes ",\"accel_x\":" ++ printSigned state.accelX.toInt ++
    bytes ",\"accel_y\":" ++ printSigned state.accelY.toInt ++
    bytes ",\"accel_z\":" ++ printSigned state.accelZ.toInt ++
    bytes ",\"gyro_x\":" ++ printSigned state.gyroX.toInt ++
    bytes ",\"gyro_y\":" ++ printSigned state.gyroY.toInt ++
    bytes ",\"gyro_z\":" ++ printSigned state.gyroZ.toInt ++ bytes "\x7d"

/-- The `rumble` member of a status response. -/
def statusRumble (rumble : RumbleState) : List UInt8 :=
  bytes ",\"rumble\":\x7b\"updated\":" ++ boolText rumble.updated ++
    bytes ",\"last_update_ms\":" ++ printUnsigned rumble.updatedAtMs.toNat ++
    bytes ",\"raw\":\"" ++ formatRumbleRaw rumble.raw ++ bytes "\"\x7d"

/-- The members of a status response after its head; the two format strings of the source agree
on them. -/
def statusMembers [Platform] (status : Domain.StatusSnapshot) : List UInt8 :=
  statusDaemon status.daemon ++ statusMetrics status.metrics ++ statusHardware status.hardware ++
    statusOwner status.hasOwner status.ownerClientId status.lastSequence ++
    statusState status.state ++ statusRumble status.rumble

/-- The switch of `swbt_ipc_json_encode_response`. -/
def encodeBody [Platform] (response : Response) (responseSize : Nat) :
    Except JsonError (List UInt8) :=
  match response.body with
  | .none => .ok []
  | .helloOk clientId =>
    jsonWrite responseSize (responseHead "hello_ok" response.requestId ++
      stringMember "client_id" (formatOwnerId clientId) ++ responseTail)
  | .acquired ownerClientId =>
    jsonWrite responseSize (responseHead "acquired" response.requestId ++
      stringMember "owner_id" (formatOwnerId ownerClientId) ++ responseTail)
  | .released => jsonWrite responseSize (responseHead "released" response.requestId ++ responseTail)
  | .stateAccepted sequence =>
    -- without a request id an accepted state is not answered
    match response.requestId with
    | some _ =>
      jsonWrite responseSize (responseHead "state_accepted" response.requestId ++
        bytes ",\"seq\":" ++ printUnsigned sequence.toNat ++ responseTail)
    | none => .ok []
  | .status status =>
    jsonWrite responseSize (responseHead "status" response.requestId ++ statusMembers status ++
      responseTail)
  | .error errorCode errorMessage =>
    jsonWrite responseSize (responseHead "error" response.requestId ++
      stringMember "code" (bytes (errorCodeText errorCode)) ++
      stringMember "message" errorMessage ++ responseTail)

/-- The two checks that `swbt_ipc_json_encode_response` makes on texts before it writes them. -/
def responseTextsRaw (response : Response) : Bool :=
  (match response.requestId with
    | none => true
    | some id => textCanBeWrittenRaw id) &&
  (match response.body with
    | .error _ errorMessage => textCanBeWrittenRaw errorMessage
    | _ => true)

/-- `swbt_ipc_json_encode_response` into a buffer of `responseSize` bytes. -/
def encodeResponse [Platform] (response : Response) (responseSize : Nat) :
    Except JsonError (List UInt8) :=
  if responseSize = 0 then .error .invalidArgument
  else if !responseTextsRaw response then .error .invalidArgument
  else encodeBody response responseSize

end Swbt.Ipc
