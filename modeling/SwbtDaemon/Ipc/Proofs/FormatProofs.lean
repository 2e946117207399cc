import SwbtDaemon.Ipc.Formats

/-!
# What the two status formats print

Both format strings are a start, the request id in one of them, and the same pieces after it, and
the arguments fit these pieces. So both print what `encodeBody` writes.
-/

namespace Swbt.Ipc

open CString Printf

/-! ## The pieces of the two formats -/

def daemonPieces : List Piece :=
  [.literal (bytes ",\"daemon\":\x7b\"protocol_version\":"), .conversion .unsigned,
    .literal (bytes ",\"daemon_version\":\""), .conversion .string,
    .literal (bytes "\",\"backend\":\""), .conversion .string,
    .literal (bytes "\",\"lifecycle_state\":\""), .conversion .string,
    .literal (bytes "\",\"hardware_approval\":\""), .conversion .string,
    .literal (bytes "\"\x7d")]

def metricsPieces : List Piece :=
  [.literal (bytes ",\"metrics\":\x7b\"hardware_status\":\""), .conversion .string,
    .literal (bytes "\",\"report_ticks_total\":"), .conversion .unsignedLongLong,
    .literal (bytes ",\"reports_sent_total\":"), .conversion .unsignedLongLong,
    .literal (bytes ",\"send_failures_total\":"), .conversion .unsignedLongLong,
    .literal (bytes ",\"report_interval_average_us\":"), .conversion .unsignedLongLong,
    .literal (bytes ",\"report_interval_max_us\":"), .conversion .unsignedLongLong,
    .literal (bytes ",\"ipc_state_accepted_total\":"), .conversion .unsignedLongLong,
    .literal (bytes ",\"ipc_state_rejected_total\":"), .conversion .unsignedLongLong,
    .literal (bytes ",\"ipc_state_coalesced_total\":"), .conversion .unsignedLongLong,
    .literal (bytes ",\"actual_report_rate_hz\":"), .conversion .unsigned,
    .literal (bytes ",\"jitter_max_us\":"), .conversion .unsignedLongLong,
    .literal (bytes "\x7d")]

def hardwarePieces : List Piece :=
  [.literal (bytes ",\"hardware\":\x7b\"adapter_state\":\""), .conversion .string,
    .literal (bytes "\",\"switch_connection_state\":\""), .conversion .string,
    .literal (bytes "\",\"hid_channel_state\":\""), .conversion .string,
    .literal (bytes "\"\x7d")]

def ownerPieces : List Piece :=
  [.literal (bytes ",\"owner\":\x7b\"present\":"), .conversion .string,
    .literal (bytes ",\"owner_id\":\""), .conversion .string,
    .literal (bytes "\",\"last_seq\":"), .conversion .unsignedLongLong,
    .literal (bytes "\x7d")]

def statePieces : List Piece :=
  [.literal (bytes ",\"state\":\x7b\"buttons\":"), .conversion .unsigned,
    .literal (bytes ",\"lx\":"), .conversion .unsigned,
    .literal (bytes ",\"ly\":"), .conversion .unsigned,
    .literal (bytes ",\"rx\":"), .conversion .unsigned,
    .literal (bytes ",\"ry\":"), .conversion .unsigned,
    .literal (bytes ",\"accel_x\":"), .conversion .int,
    .literal (bytes ",\"accel_y\":"), .conversion .int,
    .literal (bytes ",\"accel_z\":"), .conversion .int,
    .literal (bytes ",\"gyro_x\":"), .conversion .int,
    .literal (bytes ",\"gyro_y\":"), .conversion .int,
    .literal (bytes ",\"gyro_z\":"), .conversion .int,
    .literal (bytes "\x7d")]

def rumblePieces : List Piece :=
  [.literal (bytes ",\"rumble\":\x7b\"updated\":"), .conversion .string,
    .literal (bytes ",\"last_update_ms\":"), .conversion .unsignedLongLong,
    .literal (bytes ",\"raw\":\""), .conversion .string,
    .literal (bytes "\"\x7d")]

/-- The part that the two formats share: the members of the status, and the end. -/
def statusPieces : List Piece :=
  daemonPieces ++ (metricsPieces ++ (hardwarePieces ++ (ownerPieces ++ (statePieces ++
    (rumblePieces ++ [.literal (bytes "\x7d\n")])))))

/-- The start of both format strings. -/
def statusStart : List UInt8 := bytes "\x7b\"v\":1,\"type\":\"status\""

/-- The pieces of the request id. -/
def requestIdPieces : List Piece :=
  [.literal (bytes ",\"request_id\":\""), .conversion .string, .literal (bytes "\"")]

/-- The format string without a request id is in these pieces. -/
theorem statusFormat_pieces :
    statusFormat = statusStart ++ statusPieces.flatMap Piece.format := by
  decide +kernel

/-- The two format strings go on alike after the request id. -/
theorem statusFormatWithRequestId_pieces :
    statusFormatWithRequestId =
      statusStart ++
        (requestIdPieces.flatMap Piece.format ++ statusPieces.flatMap Piece.format) := by
  have hstart : bytes "\x7b\"v\":1,\"type\":\"status\"," = statusStart ++ [0x2C] := by decide
  have hstartId : bytes "\x7b\"v\":1,\"type\":\"status\",\"request_id\":\"%s\"," =
      statusStart ++ (requestIdPieces.flatMap Piece.format ++ [0x2C]) := by decide
  have hpieces := statusFormat_pieces
  simp only [statusFormat, hstart, List.append_assoc] at hpieces
  rw [← List.append_cancel_left hpieces]
  simp only [statusFormatWithRequestId, hstartId, List.append_assoc]

theorem statusPieces_plain : ∀ piece ∈ statusPieces, piece.Plain := by decide +kernel

/-! ## What the formats print -/

theorem printPieces_daemon [Platform] (daemon : DaemonStatus) :
    printPieces daemonPieces [.unsigned protocolVersion, .string Platform.versionString,
      .string (bytes (daemonBackendText daemon.backend)),
      .string (bytes (daemonLifecycleText daemon.lifecycleState)),
      .string (bytes (hardwareApprovalText daemon.hardwareApproval))] =
      some (statusDaemon daemon) := by
  apply printPieces_of_eq
  · unfold daemonPieces
    iterate 5
      apply printPieces_literal
      apply printPieces_conversion rfl
    apply printPieces_end
  · unfold statusDaemon
    simp only [Arg.text, List.append_assoc]

theorem printPieces_metrics (metrics : Metrics.Snapshot) :
    printPieces metricsPieces [.string (bytes (hardwareStatusText metrics.hardwareStatus)),
      .unsignedLongLong metrics.reportTicks.toNat, .unsignedLongLong metrics.reportSendOk.toNat,
      .unsignedLongLong metrics.reportSendFailed.toNat,
      .unsignedLongLong metrics.reportIntervalAverageUs.toNat,
      .unsignedLongLong metrics.reportIntervalMaxUs.toNat,
      .unsignedLongLong metrics.ipcStateAccepted.toNat,
      .unsignedLongLong metrics.ipcStateRejected.toNat,
      .unsignedLongLong metrics.ipcStateCoalesced.toNat,
      .unsigned metrics.actualReportRateHz.toNat, .unsignedLongLong metrics.jitterMaxUs.toNat] =
      some (statusMetrics metrics) := by
  apply printPieces_of_eq
  · unfold metricsPieces
    iterate 11
      apply printPieces_literal
      apply printPieces_conversion rfl
    apply printPieces_end
  · unfold statusMetrics
    simp only [Arg.text, List.append_assoc]

theorem printPieces_hardware (hardware : HardwareStatus) :
    printPieces hardwarePieces [.string (bytes (hardwareChannelText hardware.adapterState)),
      .string (bytes (hardwareChannelText hardware.switchConnectionState)),
      .string (bytes (hardwareChannelText hardware.hidChannelState))] =
      some (statusHardware hardware) := by
  apply printPieces_of_eq
  · unfold hardwarePieces
    iterate 3
      apply printPieces_literal
      apply printPieces_conversion rfl
    apply printPieces_end
  · unfold statusHardware
    simp only [Arg.text, List.append_assoc]

theorem printPieces_owner (hasOwner : Bool) (ownerClientId : UInt32) (lastSequence : UInt64) :
    printPieces ownerPieces [.string (boolText hasOwner),
      .string (formatOwnerId (if hasOwner then ownerClientId else 0)),
      .unsignedLongLong lastSequence.toNat] =
      some (statusOwner hasOwner ownerClientId lastSequence) := by
  apply printPieces_of_eq
  · unfold ownerPieces
    iterate 3
      apply printPieces_literal
      apply printPieces_conversion rfl
    apply printPieces_end
  · unfold statusOwner
    simp only [Arg.text, List.append_assoc]

theorem printPieces_state (state : State) :
    printPieces statePieces [.unsigned state.buttons.toNat, .unsigned state.lx.toNat,
      .unsigned state.ly.toNat, .unsigned state.rx.toNat, .unsigned state.ry.toNat,
      .int state.accelX.toInt, .int state.accelY.toInt, .int state.accelZ.toInt,
      .int state.gyroX.toInt, .int state.gyroY.toInt, .int state.gyroZ.toInt] =
      some (statusState state) := by
  apply printPieces_of_eq
  · unfold statePieces
    iterate 11
      apply printPieces_literal
      apply printPieces_conversion rfl
    apply printPieces_end
  · unfold statusState
    simp only [Arg.text, List.append_assoc]

theorem printPieces_rumble (rumble : RumbleState) :
    printPieces rumblePieces [.string (boolText rumble.updated),
      .unsignedLongLong rumble.updatedAtMs.toNat, .string (formatRumbleRaw rumble.raw)] =
      some (statusRumble rumble) := by
  apply printPieces_of_eq
  · unfold rumblePieces
    iterate 3
      apply printPieces_literal
      apply printPieces_conversion rfl
    apply printPieces_end
  · unfold statusRumble
    simp only [Arg.text, List.append_assoc]

/-- The arguments of the status print its members. -/
theorem printPieces_status [Platform] (status : Domain.StatusSnapshot) :
    printPieces statusPieces (statusArgs status
      (formatOwnerId (if status.hasOwner then status.ownerClientId else 0))
      (formatRumbleRaw status.rumble.raw)) = some (statusMembers status ++ responseTail) := by
  have hrumble := printPieces_append (printPieces_rumble status.rumble) rfl
    (printPieces_end (bytes "\x7d\n"))
  have hstate := printPieces_append (printPieces_state status.state) rfl hrumble
  have howner := printPieces_append (printPieces_owner status.hasOwner status.ownerClientId
    status.lastSequence) rfl hstate
  have hhardware := printPieces_append (printPieces_hardware status.hardware) rfl howner
  have hmetrics := printPieces_append (printPieces_metrics status.metrics) rfl hhardware
  have hdaemon := printPieces_append (printPieces_daemon status.daemon) rfl hmetrics
  refine printPieces_of_eq hdaemon ?_
  simp only [statusMembers, responseTail, List.append_assoc]

theorem stringMember_requestId (id : List UInt8) :
    stringMember "request_id" id = bytes ",\"request_id\":\"" ++ (id ++ bytes "\"") := by
  simp only [stringMember, List.append_assoc]
  rfl

theorem responseHead_status_none : responseHead "status" none = statusStart := by decide

theorem responseHead_status_some (id : List UInt8) :
    responseHead "status" (some id) = statusStart ++ stringMember "request_id" id := by
  rw [← responseHead_status_none, stringMember_requestId]
  simp only [responseHead, List.append_assoc, List.append_nil]

/-- Both formats print the head of the response, the members of the status and the end. -/
theorem statusText_eq [Platform] (requestId : Option (List UInt8))
    (status : Domain.StatusSnapshot) :
    statusText requestId status =
      some (responseHead "status" requestId ++ (statusMembers status ++ responseTail)) := by
  have hstatus := printPieces_status status
  have hstart : Piece.Plain (.literal statusStart) := by decide
  unfold statusText
  dsimp only
  cases requestId with
  | none =>
    rw [statusFormat_pieces, responseHead_status_none]
    have hplain : ∀ piece ∈ .literal statusStart :: statusPieces, piece.Plain :=
      List.forall_mem_cons.mpr ⟨hstart, statusPieces_plain⟩
    exact (format_pieces hplain _).trans (printPieces_literal hstatus)
  | some id =>
    have hid : printPieces requestIdPieces [.string id] =
        some (bytes ",\"request_id\":\"" ++ (id ++ bytes "\"")) :=
      printPieces_literal (printPieces_conversion rfl (printPieces_end _))
    have hplain : ∀ piece ∈ requestIdPieces ++ statusPieces, piece.Plain :=
      List.forall_mem_append.mpr ⟨by decide, statusPieces_plain⟩
    have hpieces := format_pieces (List.forall_mem_cons.mpr ⟨hstart, hplain⟩)
      ([.string id] ++ statusArgs status
        (formatOwnerId (if status.hasOwner then status.ownerClientId else 0))
        (formatRumbleRaw status.rumble.raw))
    rw [List.flatMap_cons, List.flatMap_append,
      printPieces_literal (printPieces_append hid rfl hstatus)] at hpieces
    rw [statusFormatWithRequestId_pieces, responseHead_status_some]
    refine hpieces.trans (congrArg some ?_)
    simp only [stringMember_requestId, List.append_assoc]

end Swbt.Ipc
