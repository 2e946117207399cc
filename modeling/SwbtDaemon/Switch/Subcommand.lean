import SwbtDaemon.Switch.Report
import SwbtDaemon.Switch.Spi

/-!
# Subcommands

The records that output reports update (rumble, player lights), the parsed output report and the
dispatcher that answers a subcommand (`switch_subcommand.c`, `switch_subcommand_dispatcher.c`,
`switch_rumble.c`, `switch_player_lights.c`, `switch_device_info.c`).
-/

namespace Swbt

/-! ## Rumble -/

/-- `SWBT_SWITCH_RUMBLE_DATA_SIZE`. -/
def rumbleDataSize : Nat := 8

/-- `SWBT_SWITCH_RUMBLE_NEUTRAL_PAYLOAD`. -/
def rumbleNeutralPayload : Vector UInt8 rumbleDataSize :=
  #v[0x00, 0x01, 0x40, 0x40, 0x00, 0x01, 0x40, 0x40]

/-- `swbt_switch_rumble_state_t`. -/
structure RumbleState where
  raw : Vector UInt8 rumbleDataSize
  updatedAtMs : UInt64
  updated : Bool
deriving DecidableEq

/-- `swbt_switch_rumble_init`. -/
def RumbleState.init : RumbleState := ⟨rumbleNeutralPayload, 0, false⟩

/-- `swbt_switch_rumble_update`. -/
def RumbleState.update (_ : RumbleState) (payload : Vector UInt8 rumbleDataSize)
    (updatedAtMs : UInt64) : RumbleState :=
  ⟨payload, updatedAtMs, true⟩

/-! ## Player lights -/

/-- `swbt_switch_player_lights_state_t`. -/
structure PlayerLights where
  raw : UInt8
  onMask : UInt8
  flashMask : UInt8
  effectiveFlashMask : UInt8
  updated : Bool
deriving DecidableEq, Repr

/-- `swbt_switch_player_lights_init`. -/
def PlayerLights.init : PlayerLights := ⟨0, 0, 0, 0, false⟩

/-- `swbt_switch_player_lights_apply_raw`. -/
def PlayerLights.applyRaw (raw : UInt8) : PlayerLights :=
  let onMask := raw &&& 0x0F
  let flashMask := (raw >>> 4) &&& 0x0F
  ⟨raw, onMask, flashMask, flashMask &&& ~~~onMask &&& 0x0F, true⟩

/-- `swbt_switch_player_lights_apply_set`: `none` for a payload without the lights byte. -/
def PlayerLights.applySet (payload : List UInt8) : Option PlayerLights :=
  match payload with
  | [] => none
  | raw :: _ => some (applyRaw raw)

/-- `SWBT_SWITCH_PLAYER_LIGHTS_REPLY_DATA_SIZE`. -/
def playerLightsReplyDataSize : Nat := 1

/-- `swbt_switch_player_lights_get_reply_data` into a buffer of `outDataSize` bytes. -/
def PlayerLights.getReplyData (lights : PlayerLights) (outDataSize : Nat) : Option (List UInt8) :=
  if outDataSize < playerLightsReplyDataSize then none else some [lights.raw]

/-! ## Device info -/

/-- `swbt_switch_device_info_t`. -/
structure DeviceInfo where
  firmwareVersion : Vector UInt8 2
  controllerType : UInt8
  bluetoothAddress : Vector UInt8 6
  tailUnknown : UInt8
  colorSource : UInt8
deriving DecidableEq

/-- `swbt_switch_device_info_write_reply_data`. -/
def DeviceInfo.writeReplyData (info : DeviceInfo) : List UInt8 :=
  info.firmwareVersion.toList ++ [info.controllerType, 0x02] ++ info.bluetoothAddress.toList ++
    [info.tailUnknown, info.colorSource]

/-! ## Output reports -/

/-- `swbt_switch_output_report_t`: the subcommand id and its data when `has_subcommand` is set. -/
structure OutputReport where
  outputReportId : UInt8
  packetCounter : UInt8
  rumble : Vector UInt8 rumbleDataSize
  subcommand : Option (UInt8 × List UInt8)
deriving DecidableEq

/-- The error codes of `swbt_switch_parse_output_report`. -/
inductive OutputReportError where
  | packetTooShort
  | unsupportedReportId
deriving DecidableEq, Repr

/-- `swbt_switch_copy_rumble`: the eight bytes from offset 2. -/
def copyRumble (data : List UInt8) : Vector UInt8 rumbleDataSize :=
  Vector.ofFn fun i => data.getD (2 + i.val) 0

/-- `swbt_switch_parse_output_report`. -/
def parseOutputReport (data : List UInt8) : Except OutputReportError OutputReport :=
  match data with
  | [] => .error .packetTooShort
  | id :: _ =>
    if id = 0x01 then
      if data.length < 11 then .error .packetTooShort
      else .ok ⟨id, data.getD 1 0, copyRumble data, some (data.getD 10 0, data.drop 11)⟩
    else if id = 0x10 then
      if data.length < 10 then .error .packetTooShort
      else .ok ⟨id, data.getD 1 0, copyRumble data, none⟩
    else .error .unsupportedReportId

/-! ## The dispatcher -/

/-- `swbt_switch_subcommand_dispatch_result_t`. -/
inductive DispatchResult where
  | ok
  | noReply
  | unsupported
  | malformedSubcommand
  | spiReadFailed
  | replyBuildFailed
  | playerLightsFailed
deriving DecidableEq, Repr

/-- `swbt_switch_subcommand_dispatch_action_t`. -/
inductive DispatchAction where
  | none
  | reply
deriving DecidableEq, Repr

/-- `swbt_switch_subcommand_dispatcher_response_t`. -/
structure DispatchResponse where
  action : DispatchAction
  report : List UInt8
  reportSize : Nat
deriving DecidableEq, Repr

/-- `swbt_switch_subcommand_dispatcher_reset_response`. -/
def DispatchResponse.reset : DispatchResponse :=
  ⟨.none, List.replicate subcommandReplyReportSize 0, 0⟩

/-- What a dispatch reads: `swbt_switch_subcommand_dispatcher_config_t` without the player lights,
which the dispatch also writes. -/
structure DispatchConfig where
  state : State
  reportOptions : ReportOptions
  spi : Spi.Flash
  deviceInfo : DeviceInfo

/-- `swbt_switch_subcommand_dispatcher_build_reply`. -/
def dispatchBuildReply (config : DispatchConfig) (ack subcommandId : UInt8) (data : List UInt8) :
    DispatchResult × DispatchResponse :=
  match buildSubcommandReply config.state config.reportOptions ⟨ack, subcommandId, data⟩
      subcommandReplyReportSize with
  | .error _ => (.replyBuildFailed, DispatchResponse.reset)
  | .ok report => (.ok, ⟨.reply, report, report.length⟩)

/-- `swbt_switch_subcommand_dispatcher_read_u32_le`. -/
def readU32Le (d0 d1 d2 d3 : UInt8) : UInt32 :=
  d0.toUInt32 ||| (d1.toUInt32 <<< 8) ||| (d2.toUInt32 <<< 16) ||| (d3.toUInt32 <<< 24)

/-- `swbt_switch_subcommand_dispatcher_spi_read`. -/
def dispatchSpiRead (config : DispatchConfig) (subcommandId : UInt8) (data : List UInt8) :
    DispatchResult × DispatchResponse :=
  match data with
  | d0 :: d1 :: d2 :: d3 :: size :: _ =>
    match Spi.read config.spi (readU32Le d0 d1 d2 d3) size Spi.maxReadSize.toNat with
    | .error _ => (.spiReadFailed, DispatchResponse.reset)
    | .ok bytes => dispatchBuildReply config 0x90 subcommandId ([d0, d1, d2, d3, size] ++ bytes)
  | _ => (.malformedSubcommand, DispatchResponse.reset)

/-- The reply data of `swbt_switch_subcommand_dispatcher_trigger_buttons_elapsed`: twice the held
ticks `300` in little-endian order, then zeros. -/
def triggerButtonsElapsedData : List UInt8 :=
  [0x2C, 0x01, 0x2C, 0x01] ++ List.replicate 10 0

/-- The reply data of `swbt_switch_subcommand_dispatcher_set_mcu_config`. -/
def mcuConfigData : List UInt8 :=
  [0x01, 0x00, 0xFF, 0x00, 0x08, 0x00, 0x1B, 0x01] ++ List.replicate 25 0 ++ [0xC8]

/-- `swbt_switch_subcommand_dispatch` on the player lights `lights`: the result, the response and
the lights afterwards. -/
def dispatch (config : DispatchConfig) (lights : PlayerLights) (report : OutputReport) :
    DispatchResult × DispatchResponse × PlayerLights :=
  match report.subcommand with
  | none => (.noReply, DispatchResponse.reset, lights)
  | some (id, data) =>
    let keep (r : DispatchResult × DispatchResponse) := (r.1, r.2, lights)
    match id with
    | 0x02 => keep (dispatchBuildReply config 0x82 id config.deviceInfo.writeReplyData)
    | 0x04 => keep (dispatchBuildReply config 0x83 id triggerButtonsElapsedData)
    | 0x21 => keep (dispatchBuildReply config 0xA0 id mcuConfigData)
    | 0x08 | 0x03 | 0x40 | 0x48 => keep (dispatchBuildReply config 0x80 id [])
    | 0x10 => keep (dispatchSpiRead config id data)
    | 0x30 =>
      match PlayerLights.applySet data with
      | none => (.malformedSubcommand, DispatchResponse.reset, lights)
      | some lights' =>
        let r := dispatchBuildReply config 0x80 id []
        (r.1, r.2, lights')
    | 0x31 =>
      match lights.getReplyData playerLightsReplyDataSize with
      | none => (.playerLightsFailed, DispatchResponse.reset, lights)
      | some replyData => keep (dispatchBuildReply config 0xB0 id replyData)
    | _ => (.unsupported, DispatchResponse.reset, lights)

end Swbt
