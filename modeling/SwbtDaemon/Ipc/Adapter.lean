import SwbtDaemon.Control.Control
import SwbtDaemon.Ipc.Encode

/-!
# The IPC adapter

`ipc/ipc_adapter.c`: executes a decoded command on the control and encodes the response.
-/

namespace Swbt.Ipc

open CString

/-- `swbt_ipc_result_t`. -/
inductive Result where
  | ok
  | invalidArgument
  | ownerBusy
  | notOwner
deriving DecidableEq, Repr

/-- `swbt_ipc_map_control_result`. -/
def mapControlResult : Control.Result → Result
  | .ok => .ok
  | .ownerBusy => .ownerBusy
  | .notOwner => .notOwner
  | .invalidArgument => .invalidArgument

/-- `swbt_ipc_adapter_command_owner_matches_client`. -/
def commandOwnerMatchesClient (command : Command) (clientId : UInt32) : Bool :=
  command.ownerClientId == some clientId

/-- `swbt_ipc_adapter_error_from_command`. -/
def errorFromCommand (command : Command) (errorCode : ErrorCode) (message : String) : Response :=
  (setError command.requestId errorCode message).toResponse

/-- `swbt_ipc_adapter_execute_command`: the response and the control afterwards. -/
def executeCommand (control : Control) (clientId : UInt32) (command : Command) :
    Response × Control :=
  -- `swbt_ipc_adapter_copy_command_request`
  let requestId := command.requestId.map (copyText jsonStringMax)
  match command.type with
  | .hello => (⟨requestId, .helloOk clientId⟩, control)
  | .acquire =>
    let (result, control) := control.acquireClient clientId
    match mapControlResult result with
    | .ownerBusy =>
      (errorFromCommand command .ownerBusy "another client owns the controller", control)
    | .ok => (⟨requestId, .acquired clientId⟩, control)
    | _ => (errorFromCommand command .internalError "failed to acquire owner", control)
  | .release =>
    if !commandOwnerMatchesClient command clientId then
      (errorFromCommand command .notOwner "client does not own the controller", control)
    else
      let (result, control) := control.releaseClient clientId
      match mapControlResult result with
      | .notOwner =>
        (errorFromCommand command .notOwner "client does not own the controller", control)
      | .ok => (⟨requestId, .released⟩, control)
      | _ => (errorFromCommand command .internalError "failed to release owner", control)
  | .setState =>
    if !commandOwnerMatchesClient command clientId then
      (errorFromCommand command .notOwner "client does not own the controller",
        control.recordStateUpdateRejected.2)
    else
      let (result, control) := control.submitClientState clientId command.state command.sequence
      match mapControlResult result with
      | .notOwner =>
        (errorFromCommand command .notOwner "client does not own the controller", control)
      | .ok => (⟨requestId, .stateAccepted command.sequence⟩, control)
      | _ => (errorFromCommand command .internalError "failed to set state", control)
  | .getStatus =>
    match control.getStatus with
    | .error _ => (errorFromCommand command .internalError "failed to get status", control)
    | .ok status => (⟨requestId, .status status.app⟩, control)
  | .none => (errorFromCommand command .internalError "failed to decode command", control)

/-- `swbt_ipc_adapter_handle_line` with a response buffer of `responseSize` bytes: the response
text, or an error, and the control afterwards. -/
def handleLine [Platform] (control : Control) (clientId : UInt32) (line : List UInt8)
    (responseSize : Nat) : Except JsonError (List UInt8) × Control :=
  if responseSize = 0 then (.error .invalidArgument, control)
  else
    match decodeCommand line with
    | .error e => (encodeResponse e.toResponse responseSize, control)
    | .ok command =>
      let r := executeCommand control clientId command
      (encodeResponse r.1 responseSize, r.2)

/-- `swbt_ipc_adapter_handle_disconnect`. -/
def handleDisconnect (control : Control) (clientId : UInt32) : Result × Control :=
  let r := control.disconnectClient clientId
  (mapControlResult r.1, r.2)

/-- `swbt_ipc_adapter_handle_heartbeat_timeout`. -/
def handleHeartbeatTimeout (control : Control) (clientId : UInt32) : Result × Control :=
  let r := control.heartbeatTimeoutClient clientId
  (mapControlResult r.1, r.2)

/-- `swbt_ipc_adapter_handle_shutdown`. -/
def handleShutdown (control : Control) : Result × Control :=
  let r := control.shutdown
  (mapControlResult r.1, r.2)

end Swbt.Ipc
