import SwbtDaemon.Switch.ControllerState

/-!
# Input reports

The `0x30` standard full report (`switch_report.c`) and the `0x21` subcommand reply
(`switch_subcommand_reply.c`). A report buffer is the list of its bytes. The two source files each
have their own copy of the packing; the copy of the reply is in the namespace `SubcommandReply`.
-/

namespace Swbt

/-- `swbt_switch_report_options_t`. -/
structure ReportOptions where
  timer : UInt8
  batteryConnection : UInt8
  vibratorReport : UInt8
deriving DecidableEq, Repr

/-- `SWBT_SWITCH_INPUT_REPORT_STANDARD_FULL`. -/
def inputReportStandardFull : UInt8 := 0x30

/-- `SWBT_SWITCH_INPUT_REPORT_SUBCOMMAND_REPLY`. -/
def inputReportSubcommandReply : UInt8 := 0x21

/-- `SWBT_SWITCH_STANDARD_FULL_REPORT_SIZE`. -/
def standardFullReportSize : Nat := 49

/-- `SWBT_SWITCH_SUBCOMMAND_REPLY_REPORT_SIZE`. -/
def subcommandReplyReportSize : Nat := 50

/-- `SWBT_SWITCH_SUBCOMMAND_REPLY_MAX_DATA_SIZE`. -/
def subcommandReplyMaxDataSize : Nat := 35

/-- `swbt_clamp_stick_12bit`. -/
def clampStick12bit (value : UInt16) : UInt16 :=
  if value > 0x0FFF then 0x0FFF else value

/-- `swbt_write_stick`: a pair of 12-bit values in three bytes. -/
def writeStick (x y : UInt16) : List UInt8 :=
  let clampedX := clampStick12bit x
  let clampedY := clampStick12bit y
  [(clampedX &&& 0xFF).toUInt8,
    (((clampedX >>> 8) &&& (0x0F : UInt16)) ||| ((clampedY &&& (0x0F : UInt16)) <<< 4)).toUInt8,
    ((clampedY >>> 4) &&& (0xFF : UInt16)).toUInt8]

/-- `swbt_write_i16_le`. -/
def writeI16Le (value : Int16) : List UInt8 :=
  let raw := value.toUInt16
  [(raw &&& 0xFF).toUInt8, ((raw >>> 8) &&& (0xFF : UInt16)).toUInt8]

/-- `swbt_write_imu_frame`. -/
def writeImuFrame (state : State) : List UInt8 :=
  writeI16Le state.accelX ++ writeI16Le state.accelY ++ writeI16Le state.accelZ ++
    writeI16Le state.gyroX ++ writeI16Le state.gyroY ++ writeI16Le state.gyroZ

/-- The thirteen bytes that the `0x30` report starts with, after the report id `id`. -/
def writeStandardPrefix (id : UInt8) (state : State) (options : ReportOptions) : List UInt8 :=
  [id, options.timer, options.batteryConnection,
    (state.buttons &&& 0xFF).toUInt8,
    ((state.buttons >>> 8) &&& (0xFF : UInt32)).toUInt8,
    ((state.buttons >>> 16) &&& (0xFF : UInt32)).toUInt8] ++
  writeStick state.lx state.ly ++ writeStick state.rx state.ry ++ [options.vibratorReport]

/-- Why a report could not be built. -/
inductive ReportError where
  | bufferTooSmall
  | dataTooLarge
deriving DecidableEq, Repr

/-- `swbt_switch_build_standard_full_report` into a buffer of `outReportSize` bytes. -/
def buildStandardFullReport (state : State) (options : ReportOptions) (outReportSize : Nat) :
    Except ReportError (List UInt8) :=
  if outReportSize < standardFullReportSize then .error .bufferTooSmall
  else
    .ok (writeStandardPrefix inputReportStandardFull state options ++
      writeImuFrame state ++ writeImuFrame state ++ writeImuFrame state)

/-- `swbt_switch_subcommand_reply_t`. -/
structure SubcommandReply where
  ack : UInt8
  subcommandId : UInt8
  data : List UInt8
deriving DecidableEq, Repr

namespace SubcommandReply

/-- `swbt_clamp_stick_12bit` of the reply. -/
def clampStick12bit (value : UInt16) : UInt16 :=
  if value > 0x0FFF then 0x0FFF else value

/-- `swbt_write_stick` of the reply. -/
def writeStick (x y : UInt16) : List UInt8 :=
  let clampedX := clampStick12bit x
  let clampedY := clampStick12bit y
  [(clampedX &&& 0xFF).toUInt8,
    (((clampedX >>> 8) &&& (0x0F : UInt16)) ||| ((clampedY &&& (0x0F : UInt16)) <<< 4)).toUInt8,
    ((clampedY >>> 4) &&& (0xFF : UInt16)).toUInt8]

/-- `swbt_write_standard_prefix`. -/
def writeStandardPrefix (state : State) (options : ReportOptions) : List UInt8 :=
  [inputReportSubcommandReply, options.timer, options.batteryConnection,
    (state.buttons &&& 0xFF).toUInt8,
    ((state.buttons >>> 8) &&& (0xFF : UInt32)).toUInt8,
    ((state.buttons >>> 16) &&& (0xFF : UInt32)).toUInt8] ++
  writeStick state.lx state.ly ++ writeStick state.rx state.ry ++ [options.vibratorReport]

end SubcommandReply

/-- `swbt_switch_build_subcommand_reply` into a buffer of `outReportSize` bytes: the bytes after
the data stay zero. -/
def buildSubcommandReply (state : State) (options : ReportOptions) (reply : SubcommandReply)
    (outReportSize : Nat) : Except ReportError (List UInt8) :=
  if reply.data.length > subcommandReplyMaxDataSize then .error .dataTooLarge
  else if outReportSize < subcommandReplyReportSize then .error .bufferTooSmall
  else
    .ok (SubcommandReply.writeStandardPrefix state options ++
      [reply.ack, reply.subcommandId] ++ reply.data ++
      List.replicate (subcommandReplyMaxDataSize - reply.data.length) 0)

end Swbt
