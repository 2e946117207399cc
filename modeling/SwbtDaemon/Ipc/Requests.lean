import SwbtDaemon.Ipc.Adapter
import SwbtDaemon.Lib.Runs

/-!
# Runs of requests

A daemon serves the request lines of many clients, between which the lease is revoked and output
reports of the console arrive. `Event` is one of these, and a run is a sequence of them in the
order in which they reach the domain.
-/

namespace Swbt.Ipc

/-- The request id that `swbt_ipc_json_decode_command` has taken from the line when it returns. -/
def decodedRequestId (line : List UInt8) : Option (List UInt8) :=
  if isCompleteObject line then (parseRequestId line).join else none

/-- The typed response that `swbt_ipc_adapter_handle_line` encodes. -/
def typedResponse [Platform] (control : Control) (clientId : UInt32) (line : List UInt8) :
    Response :=
  match decodeCommand line with
  | .error e => e.toResponse
  | .ok command => (executeCommand control clientId command).1

/-- The line is a `set_state` without request id that the domain accepts or finds stale. -/
def Unanswered [Platform] (control : Control) (clientId : UInt32) (line : List UInt8) : Prop :=
  ∃ command, decodeCommand line = .ok command ∧ command.type = .setState ∧
    command.requestId = none ∧ commandOwnerMatchesClient command clientId = true ∧
    ((control.app.setState clientId command.state command.sequence).1 = .ok ∨
      (control.app.setState clientId command.state command.sequence).1 = .staleSequence)

/-- One call of `swbt_ipc_adapter_handle_line`. -/
structure Request where
  clientId : UInt32
  line : List UInt8
  /-- The size of the response buffer. -/
  responseSize : Nat
deriving DecidableEq, Repr

namespace Request

variable [Platform]

/-- What `swbt_ipc_adapter_handle_line` answers to the request. -/
def answer (request : Request) (control : Control) : Except JsonError (List UInt8) :=
  (handleLine control request.clientId request.line request.responseSize).1

/-- The control after the request. -/
def serve (control : Control) (request : Request) : Control :=
  (handleLine control request.clientId request.line request.responseSize).2

/-- The `SET_STATE` command that the line of the request is decoded to, if it is one. -/
def setStateCommand (request : Request) : Option Command :=
  if request.responseSize = 0 then none
  else
    match decodeCommand request.line with
    | .ok command => if command.type = .setState then some command else none
    | .error _ => none

/-- The request is a `SET_STATE` whose state the domain stores: the line names its sender as the
owner and `swbt_domain_set_state` returns OK. -/
def stores (control : Control) (request : Request) : Bool :=
  match request.setStateCommand with
  | some command =>
    commandOwnerMatchesClient command request.clientId &&
      (control.app.setState request.clientId command.state command.sequence).1 == .ok
  | none => false

end Request

/-- A request, a revoke of the lease or an output report of the console. -/
inductive Event where
  | request (call : Request)
  | revoke (reason : Domain.RevokeReason) (clientId : UInt32)
  | outputReport (report : OutputReport) (reportOptions : ReportOptions)
      (deviceInfo : DeviceInfo) (updatedAtMs : UInt64)

namespace Event

variable [Platform]

/-- The control after one event. -/
def step (control : Control) : Event → Control
  | .request call => call.serve control
  | .revoke reason clientId => (control.onApp (control.app.revoke reason clientId)).2
  | .outputReport report reportOptions deviceInfo updatedAtMs =>
    { control with
      app := (control.app.handleOutputReport report reportOptions deviceInfo updatedAtMs).2.2 }

/-- The event is a request line. -/
def isLine : Event → Bool
  | .request _ => true
  | _ => false

/-- The event is a line that is decoded to a `SET_STATE` command. -/
def isSetState : Event → Bool
  | .request call => call.setStateCommand.isSome
  | _ => false

/-- The event is a `SET_STATE` line whose state the domain stores. -/
def stores (control : Control) : Event → Bool
  | .request call => call.stores control
  | _ => false

end Event

end Swbt.Ipc
