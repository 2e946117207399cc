import SwbtDaemon.Ipc.Encode
import SwbtDaemon.Lib.Written

/-!
# The members of a response

What a response says, as an object: its members in the order in which they are printed.
-/

namespace Swbt.Ipc

open CString Written

/-- A member with a string. -/
def stringField (name : String) (text : List UInt8) : Member := ⟨bytes name, .string text⟩

/-- A member with a number or a Boolean. -/
def bareField (name : String) (text : List UInt8) : Member := ⟨bytes name, .bare text⟩

/-- A member with a nested object. -/
def objectField (name : String) (first : Member) (rest : List Member) : Member :=
  ⟨bytes name, .object (bodyBytes first rest)⟩

/-- The first member of every response. -/
def versionField : Member := bareField "v" (bytes "1")

def daemonField [Platform] (daemon : DaemonStatus) : Member :=
  objectField "daemon" (bareField "protocol_version" (printUnsigned protocolVersion))
    [stringField "daemon_version" Platform.versionString,
      stringField "backend" (bytes (daemonBackendText daemon.backend)),
      stringField "lifecycle_state" (bytes (daemonLifecycleText daemon.lifecycleState)),
      stringField "hardware_approval" (bytes (hardwareApprovalText daemon.hardwareApproval))]

def metricsField (metrics : Metrics.Snapshot) : Member :=
  objectField "metrics"
    (stringField "hardware_status" (bytes (hardwareStatusText metrics.hardwareStatus)))
    [bareField "report_ticks_total" (printUnsigned metrics.reportTicks.toNat),
      bareField "reports_sent_total" (printUnsigned metrics.reportSendOk.toNat),
      bareField "send_failures_total" (printUnsigned metrics.reportSendFailed.toNat),
      bareField "report_interval_average_us" (printUnsigned metrics.reportIntervalAverageUs.toNat),
      bareField "report_interval_max_us" (printUnsigned metrics.reportIntervalMaxUs.toNat),
      bareField "ipc_state_accepted_total" (printUnsigned metrics.ipcStateAccepted.toNat),
      bareField "ipc_state_rejected_total" (printUnsigned metrics.ipcStateRejected.toNat),
      bareField "ipc_state_coalesced_total" (printUnsigned metrics.ipcStateCoalesced.toNat),
      bareField "actual_report_rate_hz" (printUnsigned metrics.actualReportRateHz.toNat),
      bareField "jitter_max_us" (printUnsigned metrics.jitterMaxUs.toNat)]

def hardwareField (hardware : HardwareStatus) : Member :=
  objectField "hardware"
    (stringField "adapter_state" (bytes (hardwareChannelText hardware.adapterState)))
    [stringField "switch_connection_state"
        (bytes (hardwareChannelText hardware.switchConnectionState)),
      stringField "hid_channel_state" (bytes (hardwareChannelText hardware.hidChannelState))]

def ownerField (hasOwner : Bool) (ownerClientId : UInt32) (lastSequence : UInt64) : Member :=
  objectField "owner" (bareField "present" (boolText hasOwner))
    [stringField "owner_id" (formatOwnerId (if hasOwner then ownerClientId else 0)),
      bareField "last_seq" (printUnsigned lastSequence.toNat)]

/-- A member with a signed number. -/
def signedField (name : String) (n : Int16) : Member := bareField name (printSigned n.toInt)

/-- A member with a stick value. -/
def stickField (name : String) (n : UInt16) : Member := bareField name (printUnsigned n.toNat)

/-- The members of a controller state after the first one. -/
def stateRest (state : State) : List Member :=
  [stickField "lx" state.lx, stickField "ly" state.ly, stickField "rx" state.rx,
    stickField "ry" state.ry, signedField "accel_x" state.accelX,
    signedField "accel_y" state.accelY, signedField "accel_z" state.accelZ,
    signedField "gyro_x" state.gyroX, signedField "gyro_y" state.gyroY,
    signedField "gyro_z" state.gyroZ]

def stateField (state : State) : Member :=
  objectField "state" (bareField "buttons" (printUnsigned state.buttons.toNat)) (stateRest state)

def rumbleField (rumble : RumbleState) : Member :=
  objectField "rumble" (bareField "updated" (boolText rumble.updated))
    [bareField "last_update_ms" (printUnsigned rumble.updatedAtMs.toNat),
      stringField "raw" (formatRumbleRaw rumble.raw)]

/-- The members of a status response after its head. -/
def statusFields [Platform] (status : Domain.StatusSnapshot) : List Member :=
  [daemonField status.daemon, metricsField status.metrics, hardwareField status.hardware,
    ownerField status.hasOwner status.ownerClientId status.lastSequence,
    stateField status.state, rumbleField status.rumble]

/-- The `type` member of a response. -/
def ResponseBody.typeText : ResponseBody → String
  | .none => "none"
  | .helloOk _ => "hello_ok"
  | .acquired _ => "acquired"
  | .released => "released"
  | .stateAccepted _ => "state_accepted"
  | .status _ => "status"
  | .error _ _ => "error"

/-- The members of a response after its head. -/
def ResponseBody.fields [Platform] : ResponseBody → List Member
  | .none => []
  | .helloOk clientId => [stringField "client_id" (formatOwnerId clientId)]
  | .acquired ownerClientId => [stringField "owner_id" (formatOwnerId ownerClientId)]
  | .released => []
  | .stateAccepted sequence => [bareField "seq" (printUnsigned sequence.toNat)]
  | .status snapshot => statusFields snapshot
  | .error errorCode errorMessage =>
    [stringField "code" (bytes (errorCodeText errorCode)), stringField "message" errorMessage]

/-- The `type` member and the `request_id` member, if there is one. -/
def headFields (type : String) (requestId : Option (List UInt8)) : List Member :=
  stringField "type" (bytes type) ::
    match requestId with
    | none => []
    | some id => [stringField "request_id" id]

/-- The members of a response after the version. -/
def Response.fields [Platform] (response : Response) : List Member :=
  headFields response.body.typeText response.requestId ++ response.body.fields

/-- The text of a response that is not silent. -/
def Response.text [Platform] (response : Response) : List UInt8 :=
  0x7B :: (bodyBytes versionField response.fields ++ 0x7D :: [0x0A])

/-- The response has no text: none, or an accepted state without a request id. -/
def Response.Silent (response : Response) : Prop :=
  response.body = .none ∨
    (response.requestId = none ∧ ∃ sequence, response.body = .stateAccepted sequence)

end Swbt.Ipc
