import SwbtDaemon.Bridge.Messages
import SwbtDaemon.Daemon.Production
import SwbtDaemon.Support.ReportTicks

/-!
# The production daemon from end to end

What goes into the production daemon over a run and what comes out of it: the state updates of the
clients and the output reports of the console on one side, the messages that the HID sender accepts
on the other one.
-/

namespace Swbt

open Ipc

instance (lease : Lease) (clientId : UInt32) : Decidable (lease.HeldBy clientId) :=
  inferInstanceAs (Decidable (_ ∧ _))

/-- A report tick as a domain operation. -/
def Domain.Op.ofTick (tick : Metrics.Tick) : Op := .recordReportTick tick.1 tick.2

/-- The domain operation comes from the IPC: a request of a client, or the end of its connection. -/
def Domain.Op.ofIpc : Op → Bool
  | .acquire _ => true
  | .setState _ _ _ => true
  | .revoke reason _ => reason ≠ .shutdown
  | .recordStateUpdateRejected => true
  | _ => false

/-- The send result of a report. -/
def Metrics.ReportSendResult.ofSent (sent : Bool) : ReportSendResult :=
  if sent then .ok else .failed

/-- The report ticks among the calls of a handler. -/
def Action.ticks (actions : List Action) : List Metrics.Tick :=
  actions.filterMap fun
    | .reportTick nowUs sent => some (nowUs, Metrics.ReportSendResult.ofSent sent)
    | _ => none

/-- The report ticks of an event. -/
def TimerAdapter.ticks (adapter : TimerAdapter) (event : ReportLoop.Event) : List Metrics.Tick :=
  Action.ticks (ReportLoop.handle adapter event).2

namespace Production

instance (app : Domain) (clientId : UInt32) (command : Command) :
    Decidable (AcceptedUpdate app clientId command) :=
  inferInstanceAs (Decidable (_ ∧ _ ∧ _ ∧ _))

/-- The state update in a line of the client `clientId`, if the domain accepts it. -/
def updateOf [Platform] (app : Domain) (clientId : UInt32) (line : List UInt8) : Option (UInt32 × State) :=
  match decodeCommand (CString.ofArray line) with
  | .error _ => none
  | .ok command =>
    if AcceptedUpdate app clientId command then some (clientId, command.state) else none

/-- The state updates that an event brings and the domain accepts, with their clients. -/
def acceptedUpdates [Platform] (s : Shutdown Host) : Event → List (UInt32 × State)
  | .poll timeMs io =>
    let sys := s.host.sys
    match (sys.runner.pollOnceAt sys.control (IpcRunner.clockReading timeMs) io).handed with
    | none => []
    | some line => (updateOf sys.control.app sys.runner.connection.clientId line).toList
  | _ => []

/-- The controller state is neutral, or that of the last of the updates, whose client holds the
lease. -/
def ShowsLast (app : Domain) (updates : List (UInt32 × State)) : Prop :=
  app.state = State.neutral ∨
    ∃ clientId, updates.getLast? = some (clientId, app.state) ∧ app.lease.HeldBy clientId

/-- A reply of the dispatcher: the channel and the subcommand of its request, and its report. -/
structure DispatchedReply where
  hidCid : UInt16
  subcommandId : UInt8
  report : List UInt8
deriving DecidableEq, Repr

/-- The reply as the queue holds it. -/
def DispatchedReply.item (reply : DispatchedReply) : ReplyItem := ⟨reply.hidCid, reply.report⟩

/-- The replies of the dispatcher to the output report of an event. -/
def dispatchedReplies (s : Shutdown Host) : Event → List DispatchedReply
  | .outputReport hidCid report deviceInfo timeMs =>
    let (result, response, _) := s.host.sys.control.app.handleOutputReport report
      s.host.reportOptions deviceInfo (ReportLoop.clockMs timeMs).toUInt64
    match report.subcommand with
    | none => []
    | some (subcommandId, _) =>
      if result ≠ .ok ∨ response.action ≠ .reply then []
      else [⟨hidCid, subcommandId, response.report.take response.reportSize⟩]
  | _ => []

/-- The daemon before an event, with no messages yet. -/
def cleared (s : Shutdown Host) : Shutdown Host := { s with host := { s.host with sends := [] } }

/-- The domain operation that an event does before it calls the adapter. -/
def ownOps (s : Shutdown Host) : Event → List Domain.Op
  | .shutdown (.callback _ _) => if s.callbackQueued then [.revoke .shutdown 0] else []
  | .outputReport _ report deviceInfo timeMs =>
    [.handleOutputReport report s.host.reportOptions deviceInfo
      (ReportLoop.clockMs timeMs).toUInt64]
  | _ => []

/-- The calls of the adapter that an event leads to; the shutdown may stop the adapter after
them. -/
def adapterCalls (s : Shutdown Host) (event : Event) : List ReportLoop.Event :=
  match event with
  | .shutdown (.callback input _) =>
    if s.callbackQueued then [.sendNeutralNow input.accepted] else []
  | .shutdown (.opened status hidCid input) =>
    if status = 0 ∧ s.reportTimerInitialized = true then [.start hidCid input.timeMs] else []
  | .shutdown (.canSendNow input _) =>
    if s.reportTimerInitialized then
      [.canSendNow input.timeMs s.host.readState input.accepted]
    else []
  | .shutdown _ => []
  | .reportTimer timeMs => [.timer timeMs]
  | .outputReport _ _ _ _ =>
    (dispatchedReplies s event).map fun reply =>
      .enqueueSubcommandReply reply.hidCid reply.report
  | .poll _ _ => []

/-- The answer that an event has for the HID sender. -/
def Event.accepted : Event → Bool
  | .shutdown (.callback input _) => input.accepted
  | .shutdown (.canSendNow input _) => input.accepted
  | _ => false

/-- The messages that the HID sender accepts in an event. -/
def sentMessages [Platform] (s : Shutdown Host) (event : Event) : List (List UInt8) :=
  if event.accepted then (step s event).host.sends else []

/-- The periodic reports that an event gives to the HID sender, as ticks: the time of the can-send
event, and whether the sender accepts the report. -/
def periodicReports [Platform] (s : Shutdown Host) (event : Event) : List Metrics.Tick :=
  match event with
  | .shutdown (.canSendNow input _) =>
    if s.host.adapter.neutralSendPending ∨ s.host.adapter.replyQueue.size > 0 then []
    else
      (step s event).host.sends.map fun _ =>
        (TimerAdapter.readingUs (ReportLoop.clockMs input.timeMs),
          Metrics.ReportSendResult.ofSent input.accepted)
  | _ => []

/-- The domain operations of an event, those of the IPC apart. -/
def hostOps [Platform] (s : Shutdown Host) (event : Event) : List Domain.Op :=
  ownOps s event ++ (periodicReports s event).map .ofTick

/-- The time of a can-send event. -/
def Event.canSendTime : Event → Option Nat
  | .shutdown (.canSendNow input _) => some input.timeMs
  | _ => none

/-- What the console has told the daemon: its last rumble and the player lights that it has set. -/
structure ConsoleMemory where
  rumble : RumbleState
  lights : PlayerLights
deriving DecidableEq

namespace ConsoleMemory

def init : ConsoleMemory := ⟨RumbleState.init, PlayerLights.init⟩

/-- The player lights that an output report sets. -/
def setLights (lights : PlayerLights) (report : OutputReport) : PlayerLights :=
  match report.subcommand with
  | some (0x30, raw :: _) => PlayerLights.applyRaw raw
  | _ => lights

/-- The memory after an output report at the time `updatedAtMs`. -/
def tell (memory : ConsoleMemory) (heard : OutputReport × UInt64) : ConsoleMemory :=
  ⟨⟨heard.1.rumble, heard.2, true⟩, setLights memory.lights heard.1⟩

end ConsoleMemory

/-- The reply that a dispatch gives to the output report `report`, if it gives one. -/
def repliesOf (hidCid : UInt16) (report : OutputReport)
    (dispatched : DispatchResult × DispatchResponse × PlayerLights) : List DispatchedReply :=
  match report.subcommand with
  | none => []
  | some (subcommandId, _) =>
    if dispatched.1 ≠ .ok ∨ dispatched.2.1.action ≠ .reply then []
    else [⟨hidCid, subcommandId, dispatched.2.1.report.take dispatched.2.1.reportSize⟩]

/-- The output report of an event, with its time. -/
def Event.heard : Event → Option (OutputReport × UInt64)
  | .outputReport _ report _ timeMs => some (report, (ReportLoop.clockMs timeMs).toUInt64)
  | _ => none

/-- A message that carries a reply: only the timer byte may differ, and it names the subcommand of
its request. -/
structure Answers (reply : DispatchedReply) (message : List UInt8) : Prop where
  size : message.length = 51
  header : message[0]? = some TimerAdapter.hidpInputReportHeader
  id : message[1]? = some inputReportSubcommandReply
  subcommand : message[15]? = some reply.subcommandId
  bytes : ∀ k, k ≠ 1 → message[k + 1]? = reply.report[k]?

/-- What the daemon has when its run loop starts: the period and the options of the reports, the
endpoint that its IPC runner listens on, and the status records of its fresh domain. -/
structure Setup where
  reportPeriodUs : UInt32
  reportOptions : ReportOptions
  config : IpcRunnerConfig
  listening : Option UInt16
  daemon : DaemonStatus
  hardware : HardwareStatus
  readRuntimeStatus : Option (Option RuntimeStatus)
  reconnecting : Bool

/-- The daemon when its run loop starts, or the failure of its adapter or of its domain. -/
def Setup.start (setup : Setup) : Option (Shutdown Host) :=
  match TimerAdapter.init setup.reportPeriodUs setup.reportOptions, Domain.init with
  | .ok adapter, .ok app =>
    let app := { app with daemon := setup.daemon, hardware := setup.hardware }
    let runner := (IpcRunner.init.start setup.config setup.listening).2
    some (started adapter ⟨runner, Control.init app setup.readRuntimeStatus⟩ setup.reportOptions
      setup.reconnecting)
  | _, _ => none

/-- The default configuration of the daemon. -/
def defaultSetup : Setup where
  reportPeriodUs := 8000
  reportOptions := ⟨0, 0x8E, 0x80⟩
  config := ⟨CString.bytes "127.0.0.1", 0, 1, 1000⟩
  listening := some 5000
  daemon := ⟨.production, .running, .approved⟩
  hardware := HardwareStatus.default
  readRuntimeStatus := none
  reconnecting := false

end Production

end Swbt
