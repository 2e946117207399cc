import SwbtDaemon.Bridge.HidEvent
import SwbtDaemon.Daemon.Config

/-!
# The address of a reconnect

`daemon/active_reconnect.c` as far as the address is concerned, and the part of
`daemon/btstack_hid_session.c` that learns it from an opened connection.
-/

namespace Swbt

/-- `swbt_btstack_device_connect_request_t`. -/
structure ConnectRequest where
  address : SwitchAddress.Bytes
  controlPsm : UInt16
  interruptPsm : UInt16
deriving DecidableEq

/-- `swbt_daemon_active_reconnect_request_result_t`, with the request when it is ready. -/
inductive BuiltRequest where
  | invalid
  | ready (request : ConnectRequest)
  | none
deriving DecidableEq

namespace Reconnect

/-- `SWBT_BTSTACK_PRODUCTION_HID_CONTROL_PSM`. -/
def hidControlPsm : UInt16 := 0x11

/-- `SWBT_BTSTACK_PRODUCTION_HID_INTERRUPT_PSM`. -/
def hidInterruptPsm : UInt16 := 0x13

/-- `swbt_daemon_active_reconnect_build_request`. -/
def buildRequest (config : Config) : BuiltRequest :=
  match config.effectiveReconnectSwitchAddress with
  | none => .none
  | some switchAddress =>
    let (ok, address) := SwitchAddress.parseBytes switchAddress.toList (Vector.replicate 6 0)
    if !ok then .invalid else .ready ⟨address, hidControlPsm, hidInterruptPsm⟩

variable {V : Type*} (lib : TomlLibrary V)

/-- `swbt_daemon_active_reconnect_save_learned_address`: `none` when nothing is saved. The buffer
of the text is local. -/
def saveLearnedAddress (config : Config) (path : List UInt8) (address : SwitchAddress.Bytes)
    (read : ConfigFile.ReadAnswers V) (write : ConfigFile.WriteAnswers) :
    Option (ConfigFile.Saved V) :=
  if path = [] then none
  else
    let addressText := SwitchAddress.formatBytes address (Vector.replicate 18 0)
    some (ConfigFile.saveLearnedSwitchAddress lib config path addressText.toList read write)

/-- What the HID session reads when a packet arrives: the path of the learned address when the
target is configured, and whether the device is registered and the report timer ready. -/
structure Learning where
  config : Config
  target : Option (List UInt8)
  registered : Bool
  reportTimerReady : Bool

/-- `swbt_daemon_btstack_hid_session_maybe_save_learned_address`. -/
def Learning.maybeSaveLearnedAddress (session : Learning) (address : SwitchAddress.Bytes)
    (read : ConfigFile.ReadAnswers V) (write : ConfigFile.WriteAnswers) :
    Option (ConfigFile.Saved V) :=
  session.target.bind fun path => saveLearnedAddress lib session.config path address read write

/-- `swbt_daemon_btstack_hid_session_packet_handler`, as far as it saves an address: `none` when
nothing is saved. -/
def Learning.packetHandler (session : Learning) (packetType : UInt8) (packet : List UInt8)
    (read : ConfigFile.ReadAnswers V) (write : ConfigFile.WriteAnswers) :
    Option (ConfigFile.Saved V) :=
  if !session.registered then none
  else
    match HidEvent.decode packetType packet with
    | (.ok, event) =>
      if event.type = .connectionOpened ∧ event.status = 0 ∧ session.reportTimerReady then
        session.maybeSaveLearnedAddress lib event.address read write
      else none
    | (.ignored, _) => none

end Reconnect

end Swbt
